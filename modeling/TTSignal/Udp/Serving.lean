import TTSignal.Udp.Ladder
import TTSignal.Runs

/-!
# A sender uses the socket it has

While every restart gets its socket, and no availability check runs out when no other restart
waits, a sender that has come down the ladder does not rest there: it is restarted or shut
down. So a call that finds no lower state asked for finds a socket that has been created and
bound.
-/

namespace Udp

/-- The restarts from one on and before another get their sockets. -/
def System.Gives (sys : System) (first last : ℕ) : Prop :=
  ∀ k, first ≤ k → k < last → (sys.setup k).Succeeds

/-- Fewer restarts get theirs. -/
theorem System.Gives.mono {sys : System} {first last first' last' : ℕ}
    (h : sys.Gives first last) (hfirst : first ≤ first') (hlast : last' ≤ last) :
    sys.Gives first' last' := fun k hk hk' => h k (by omega) (by omega)

namespace Sender

variable {sys : System} {good : Prop} {s t : Sender}

/-- What a sender has between two steps: its states are on the ladder, at the foot of which it
has no socket, and it is shut down only there. In a good run it is at the foot only when it is
shut down, with no lower state asked for it has its socket, and one is asked for by a restart
that waits. -/
structure Steady (good : Prop) (s : Sender) : Prop where
  /-- The state it is in. -/
  state : s.state = sndrStateInactive ∨ s.state = sndrStateReady ∨ s.state = sndrStateReading
  /-- The state it is to come to. -/
  newState : s.newState = sndrStateFreed ∨ s.newState = sndrStateInactive ∨
    s.newState = sndrStateMax
  /-- At the foot nothing is received. -/
  bare : s.state = sndrStateInactive → s.socket = none ∧ s.pendingRecv = 0
  /-- Its queue is shut down at the foot, for good. -/
  down : s.detached = true → s.state = sndrStateInactive ∧ s.newState = sndrStateFreed
  /-- It closes when its queue is shut down. -/
  closed : s.closed = true → s.detached = true
  /-- At the foot it is shut down. -/
  foot : good → s.state = sndrStateInactive → s.newState = sndrStateFreed
  /-- With no lower state asked for it has its socket. -/
  serves : good → s.newState = sndrStateMax → s.state = sndrStateReading ∧ s.HasSocket
  /-- It comes down to be restarted. -/
  waits : good → s.newState = sndrStateInactive → 0 < s.pendingRestart ∧ s.checkTimer = false
  /-- The availability check belongs to a restart. -/
  timer : good → s.checkTimer = true → 0 < s.pendingRestart
  /-- What has happened. -/
  served : good → ∀ m ∈ s.trace, m.Served

/-- Where no lower state is asked for, none is. -/
theorem Steady.newState_of_le (h : s.Steady good) (hgood : good) (hle : s.state ≤ s.newState) :
    s.newState = sndrStateMax := by
  have hstate := h.state
  have hfoot := h.foot hgood
  simp only [sndrStateInactive, sndrStateReady, sndrStateReading, sndrStateFreed] at hstate hfoot
  rcases h.newState with hnew | hnew | hnew
  · rw [hnew, sndrStateFreed] at hle
    omega
  · rw [hnew, sndrStateInactive] at hle hfoot
    omega
  · exact hnew

/-- The highest state lets every state go on. -/
theorem Steady.le_of_newState (h : s.Steady good) (hnew : s.newState = sndrStateMax) :
    s.state ≤ s.newState := by
  rcases h.state with hs | hs | hs <;> rw [hs, hnew] <;> decide

/-- A sender whose queue is not shut down does not come back to the foot it has left. -/
theorem Steady.attached (h : s.Steady good) (hnew : s.newState ≠ sndrStateFreed) :
    s.detached = false := by
  by_contra hdown
  exact hnew (h.down (by simpa using hdown)).2

/-- What changes only counts is steady. -/
theorem Steady.of_eq (h : s.Steady good) (hstate : t.state = s.state)
    (hnew : t.newState = s.newState) (hsocket : t.socket = s.socket)
    (hrecv : s.socket = none → s.pendingRecv = 0 → t.pendingRecv = 0)
    (hdetached : t.detached = s.detached) (hclosed : t.closed = s.closed)
    (hpending : t.pendingRestart = s.pendingRestart) (htimer : t.checkTimer = s.checkTimer)
    (hserved : good → ∀ m ∈ t.trace, m.Served) : t.Steady good where
  state := hstate ▸ h.state
  newState := hnew ▸ h.newState
  bare hs := by
    obtain ⟨hnone, hzero⟩ := h.bare (hstate ▸ hs)
    exact ⟨hsocket.trans hnone, hrecv hnone hzero⟩
  down := by
    rw [hdetached, hstate, hnew]
    exact h.down
  closed := by
    rw [hclosed, hdetached]
    exact h.closed
  foot := by
    rw [hstate, hnew]
    exact h.foot
  serves := by
    rw [hnew, hstate, HasSocket, hsocket]
    exact h.serves
  waits := by
    rw [hnew, hpending, htimer]
    exact h.waits
  timer := by
    rw [htimer, hpending]
    exact h.timer
  served := hserved

/-- A sender that is to be shut down is steady in every state of the ladder. -/
theorem Steady.freed (h : s.Steady good) (status : BCRESULT) :
    (s.setState sndrStateFreed status).Steady good where
  state := h.state
  newState := .inl rfl
  bare := h.bare
  down hdown := ⟨(h.down hdown).1, rfl⟩
  closed := h.closed
  foot _ _ := rfl
  serves _ hnew := by cases hnew
  waits _ hnew := by cases hnew
  timer := h.timer
  served := h.served

/-- A restarted sender is steady. -/
theorem Restarted.steady (hrestarted : Restarted sys s t)
    (hsetup : good → (sys.setup s.restarts).Succeeds) (hdetached : s.detached = false)
    (hclosed : s.closed = false) (htimer : s.checkTimer = false) (hpending : 0 < s.pendingRestart)
    (hserved : good → ∀ m ∈ s.trace, m.Served) : t.Steady good where
  state := .inr (.inr hrestarted.state)
  newState := .inr (.inr hrestarted.newState)
  bare hstate := by
    rw [hrestarted.state] at hstate
    cases hstate
  down hdown := by
    rw [hrestarted.detached, hdetached] at hdown
    cases hdown
  closed hdone := by
    rw [hrestarted.grows.closed, hclosed] at hdone
    cases hdone
  foot _ hstate := by
    rw [hrestarted.state] at hstate
    cases hstate
  serves hgood _ := ⟨hrestarted.state, hrestarted.socket (hsetup hgood)⟩
  waits _ hnew := by
    rw [hrestarted.newState] at hnew
    cases hnew
  timer _ := hrestarted.timer htimer hpending
  served hgood := hrestarted.served (hsetup hgood) (hserved hgood)

/-- The ladder leaves a steady sender steady, and lets a caller go on only when its queue is not
shut down and, in a good run, no lower state is asked for. -/
theorem Steady.exitCheck (h : s.Steady good)
    (hgives : good → sys.Gives s.restarts (s.exitCheck sys).2.restarts) :
    (s.exitCheck sys).2.Steady good ∧
      ((s.exitCheck sys).1 = false → (s.exitCheck sys).2.detached = false ∧
        (good → (s.exitCheck sys).2.newState = sndrStateMax)) := by
  cases hex : s.exitCheck sys with
  | mk leave t =>
    have hladder := ladder_exitCheck sys s
    rw [hex] at hladder hgives
    -- on the way down the lower state is that of a restart, or the lowest one
    have hlower (hlt : s.newState < s.state) : s.newState ≠ sndrStateMax := by
      intro hnew
      have := h.le_of_newState hnew
      omega
    have hinactive (hnew : s.newState = sndrStateInactive) : s.detached = false :=
      h.attached (by rw [hnew]; decide)
    have hhigh (hstate : s.state = sndrStateReading ∨ s.state = sndrStateReady) :
        s.detached ≠ true := by
      intro hdown
      have hfoot := (h.down hdown).1
      rcases hstate with hs | hs <;> rw [hs] at hfoot <;> cases hfoot
    cases hladder with
    | goesOn hle =>
      refine ⟨h, fun _ => ⟨?_, fun hgood => h.newState_of_le hgood hle⟩⟩
      by_contra hdown
      obtain ⟨hs, hnew⟩ := h.down (by simpa using hdown)
      rw [hs, hnew] at hle
      exact absurd hle (by decide)
    | pending hlt hstate =>
      refine ⟨⟨.inr (.inl rfl), h.newState, nofun, fun hdown => absurd hdown (hhigh hstate),
        h.closed, nofun, ?_, h.waits, h.timer, h.served⟩, nofun⟩
      exact fun _ hnew => absurd hnew (hlower hlt)
    | controlled hlt hstate hrecv =>
      refine ⟨⟨.inr (.inl rfl), h.newState, nofun, fun hdown => absurd hdown (hhigh hstate),
        h.closed, nofun, ?_, h.waits, h.timer, h.served⟩, nofun⟩
      exact fun _ hnew => absurd hnew (hlower hlt)
    | restarts hnew hpending hrestarted =>
      have hsetup (hgood : good) : (sys.setup s.restarts).Succeeds := by
        have hmore : t.restarts = s.restarts + 1 := hrestarted.restarts
        exact hgives hgood _ (Nat.le_refl _) (by
          change s.restarts < t.restarts
          omega)
      have hclosed : s.closed = false := by
        by_contra hdone
        have hdown := h.closed (by simpa using hdone)
        rw [hinactive hnew] at hdown
        cases hdown
      have hsteady := hrestarted.steady hsetup (hinactive hnew) hclosed rfl hpending h.served
      exact ⟨hsteady, fun _ => ⟨hrestarted.detached.trans (hinactive hnew),
        fun _ => hrestarted.newState⟩⟩
    | rests hnew hrecv hpending =>
      have hbad (hgood : good) : False := by
        have hwaits := (h.waits hgood hnew).1
        omega
      refine ⟨⟨.inl rfl, h.newState, fun _ => ⟨rfl, hrecv⟩, ?_, h.closed,
        fun hgood => (hbad hgood).elim, fun hgood => (hbad hgood).elim, h.waits, h.timer, h.served⟩,
        fun _ => ⟨hinactive hnew, fun hgood => (hbad hgood).elim⟩⟩
      intro hdown
      have hsame : s.detached = true := hdown
      rw [hinactive hnew] at hsame
      cases hsame
    | shutsDown hlt hnew hrecv =>
      have hfreed : s.newState = sndrStateFreed := by
        rcases h.newState with hfreed | hinactive | hmax
        · exact hfreed
        · exact absurd hinactive hnew
        · exact absurd hmax (hlower hlt)
      refine ⟨⟨.inl rfl, h.newState, fun _ => ⟨rfl, hrecv⟩, fun _ => ⟨rfl, hfreed⟩, fun _ => rfl,
        fun _ _ => hfreed, ?_, ?_, nofun, h.served⟩, nofun⟩
      · exact fun _ hmax => absurd hmax (hlower hlt)
      · exact fun _ hinactive => absurd hinactive hnew
    | isDown hlt hstate =>
      have hfoot : s.state = sndrStateInactive := by
        rcases h.state with hs | hs | hs
        · exact hs
        · exact absurd (.inr hs) hstate
        · exact absurd (.inl hs) hstate
      have hfreed : s.newState = sndrStateFreed := by
        rw [hfoot, sndrStateInactive] at hlt
        rw [sndrStateFreed]
        omega
      have hdown : s.shutDown = { s with checkTimer := false, detached := true } :=
        if_pos hfoot
      refine ⟨?_, nofun⟩
      change s.shutDown.Steady good
      rw [hdown]
      refine ⟨h.state, h.newState, h.bare, fun _ => ⟨hfoot, hfreed⟩, fun _ => rfl, h.foot,
        h.serves, ?_, nofun, h.served⟩
      exact fun hgood hnew => ⟨(h.waits hgood hnew).1, rfl⟩

/-- What is steady behind a test of `_ExitCheck` is steady with it. -/
theorem Steady.unlessExit {rest : Sender → Sender} (h : s.Steady good)
    (hgrows : ∀ t : Sender, t.restarts ≤ (rest t).restarts)
    (hrest : ∀ t : Sender, t.Steady good → t.detached = false →
      (good → t.newState = sndrStateMax) → (good → sys.Gives t.restarts (rest t).restarts) →
        (rest t).Steady good)
    (hgives : good → sys.Gives s.restarts (s.unlessExit sys rest).restarts) :
    (s.unlessExit sys rest).Steady good := by
  have hexit := (grows_exitCheck sys s).restarts
  unfold Sender.unlessExit at hgives ⊢
  split at hgives
  · rename_i hleave
    rw [if_pos hleave]
    exact (h.exitCheck hgives).1
  · rename_i hleave
    rw [if_neg hleave]
    have hmore := hgrows (s.exitCheck sys).2
    have hfirst (hgood : good) : sys.Gives s.restarts (s.exitCheck sys).2.restarts :=
      (hgives hgood).mono (Nat.le_refl _) hmore
    obtain ⟨hsteady, hpass⟩ := h.exitCheck hfirst
    obtain ⟨hattached, hmax⟩ := hpass (by simpa using hleave)
    exact hrest _ hsteady hattached hmax
      fun hgood => (hgives hgood).mono hexit (Nat.le_refl _)

/-- A user of the socket that passes the test in a good run has it. -/
theorem Steady.passes (h : s.Steady good) (hnew : good → s.newState = sndrStateMax)
    (user : User) : (s.note (.passes user s.socket)).Steady good :=
  h.of_eq rfl rfl rfl (fun _ hzero => hzero) rfl rfl rfl rfl
    fun hgood => served_note (h.serves hgood (hnew hgood)).2 (h.served hgood)

/-- A call of the handler changes nothing. -/
theorem Steady.calls (h : s.Steady good) (callback : Callback) :
    (s.note (.calls callback)).Steady good :=
  h.of_eq rfl rfl rfl (fun _ hzero => hzero) rfl rfl rfl rfl
    fun hgood => served_note (m := .calls callback) trivial (h.served hgood)

/-- Starting a receive leaves a sender steady: at the foot there is no socket to start one. -/
theorem Steady.recvV2 (h : s.Steady good) (sys : System) : (s.recvV2 sys).Steady good := by
  unfold Sender.recvV2
  split
  · exact h
  · rename_i socket hsocket
    have hsome : s.socket ≠ none := by
      rw [hsocket]
      nofun
    split
    · exact h.of_eq rfl rfl rfl (fun hnone => absurd hnone hsome) rfl rfl rfl rfl h.served
    · exact h.of_eq rfl rfl rfl (fun _ hzero => hzero) rfl rfl rfl rfl h.served

/-- The end of a receive leaves a sender steady. -/
theorem Steady.recvMore (h : s.Steady good)
    (hgives : good → sys.Gives s.restarts (s.recvMore sys (Sender.exitCheck sys)).restarts) :
    (s.recvMore sys (Sender.exitCheck sys)).Steady good := by
  unfold Sender.recvMore at hgives ⊢
  split at hgives
  · rename_i hpending
    rwa [if_pos hpending]
  · rename_i hnone
    rw [if_neg hnone]
    have hsame := (grows_recvV2 (P := fun _ => True) sys s).restarts
    refine ((h.recvV2 sys).exitCheck fun hgood => ?_).1
    exact (hgives hgood).mono hsame (Nat.le_refl _)

/-- A send changes only the count of sends. -/
theorem udpSend_eq (s : Sender) (result : BCRESULT) :
    ∃ pending, s.udpSend result = { s with pendingSend := pending } := by
  unfold udpSend
  split
  · exact ⟨s.pendingSend, rfl⟩
  · split
    · exact ⟨_, rfl⟩
    · exact ⟨s.pendingSend, rfl⟩

/-- A send leaves a sender steady. -/
theorem Steady.udpSend (h : s.Steady good) (result : BCRESULT) :
    (s.udpSend result).Steady good := by
  obtain ⟨pending, hsend⟩ := udpSend_eq s result
  rw [hsend]
  exact h.of_eq rfl rfl rfl (fun _ hzero => hzero) rfl rfl rfl rfl h.served

/-- What uses the socket leaves a sender steady. -/
theorem Steady.pass {use : Sender → Sender} (h : s.Steady good) (user : User)
    (hgrows : ∀ t, Grows Callback.OfRestart t (use t))
    (huse : ∀ t, t.Steady good → (good → sys.Gives t.restarts (use t).restarts) →
      (use t).Steady good)
    (hgives : good → sys.Gives s.restarts (s.pass sys user use).restarts) :
    (s.pass sys user use).Steady good := by
  refine h.unlessExit (fun t => ?_) (fun t ht _ hnew hmore => ?_) hgives
  · exact (hgrows (t.note (.passes user t.socket))).restarts
  · exact huse _ (ht.passes hnew user) hmore

/-- A receive leaves a sender steady. -/
theorem Steady.udpRecvChunk (h : s.Steady good)
    (hgives : good → sys.Gives s.restarts (s.udpRecvChunk sys).restarts) :
    (s.udpRecvChunk sys).Steady good := by
  rw [udpRecvChunk_eq] at hgives ⊢
  exact h.pass .recvChunk (grows_recvMore sys) (fun _ ht hmore => ht.recvMore hmore) hgives

/-- A failed operation leaves a sender steady, and restarts nothing. -/
theorem Steady.onResult (h : s.Steady good) (result : BCRESULT) :
    (s.onResult result).Steady good ∧ (s.onResult result).restarts = s.restarts := by
  unfold Sender.onResult
  split
  · exact ⟨h.freed result, rfl⟩
  · exact ⟨h, rfl⟩

/-- A finished receive leaves a sender steady. -/
theorem Steady.recvDone (h : s.Steady good) (result : BCRESULT) (size : ℕ)
    (hgives : good → sys.Gives s.restarts (s.recvDone sys result size).restarts) :
    (s.recvDone sys result size).Steady good := by
  have hless : { s with pendingRecv := s.pendingRecv - 1 }.Steady good :=
    h.of_eq rfl rfl rfl (fun _ hzero => Nat.sub_eq_zero_of_le (by omega)) rfl rfl rfl rfl h.served
  obtain ⟨hbegun, hsame⟩ := hless.onResult result
  refine hbegun.unlessExit (fun t => ?_) (fun t ht _ _ hgives => ?_)
    (fun hgood => hsame.symm ▸ hgives hgood)
  · exact (grows_udpRecvChunk sys t).restarts
  · have hcalled := (ht.udpRecvChunk hgives).calls .onRecvData
    exact hcalled.of_eq rfl rfl rfl (fun _ hzero => hzero) rfl rfl rfl rfl hcalled.served

/-- A finished send leaves a sender steady. -/
theorem Steady.sendDone (h : s.Steady good) (result : BCRESULT)
    (hgives : good → sys.Gives s.restarts (s.sendDone sys result).restarts) :
    (s.sendDone sys result).Steady good := by
  have hless : { s with pendingSend := s.pendingSend - 1 }.Steady good :=
    h.of_eq rfl rfl rfl (fun _ hzero => hzero) rfl rfl rfl rfl h.served
  obtain ⟨hbegun, hsame⟩ := hless.onResult result
  refine hbegun.unlessExit (fun t => Nat.le_refl _) (fun t ht _ _ _ => ?_)
    (fun hgood => hsame.symm ▸ hgives hgood)
  have hcalled := ht.calls .onSendData
  exact hcalled.of_eq rfl rfl rfl (fun _ hzero => hzero) rfl rfl rfl rfl hcalled.served

/-- The end of a callback leaves a sender steady. -/
theorem Steady.returned (h : s.Steady good) (threw : Bool)
    (hgives : good → sys.Gives s.restarts (s.returned sys threw).restarts) :
    (s.returned sys threw).Steady good := by
  have hinside : { s with outside := false }.Steady good :=
    h.of_eq rfl rfl rfl (fun _ hzero => hzero) rfl rfl rfl rfl h.served
  unfold Sender.returned at hgives ⊢
  cases threw with
  | true => exact ((hinside.freed bcrUnexpected).exitCheck hgives).1
  | false => exact (hinside.exitCheck hgives).1

/-- Asking for a restart leaves a sender steady. -/
theorem Steady.restartWork (h : s.Steady good) (hdetached : s.detached = false)
    (hnew : good → s.newState = sndrStateMax) (checkAvailable : Bool) :
    (s.restartWork checkAvailable).Steady good := by
  have hopen : s.closed ≠ true := by
    intro hdone
    rw [h.closed hdone] at hdetached
    cases hdetached
  have hattached : s.detached ≠ true := by simp [hdetached]
  by_cases hpending : s.pendingRestart = 0
  · have heq : s.restartWork checkAvailable = { s with
        newState := sndrStateInactive, closeStatus := bcrSuccess,
        pendingRestart := s.pendingRestart + 1, checkAvailable := checkAvailable,
        recvDataCount := 0 } := by
      unfold Sender.restartWork
      rw [if_pos hpending]
      rfl
    rw [heq]
    refine ⟨h.state, .inr (.inl rfl), h.bare, fun hdown => absurd hdown hattached, h.closed, ?_,
      nofun, ?_, fun _ _ => Nat.succ_pos _, h.served⟩
    · intro hgood hinactive
      have hsame : s.state = sndrStateInactive := hinactive
      rw [(h.serves hgood (hnew hgood)).1] at hsame
      cases hsame
    · intro hgood _
      refine ⟨Nat.succ_pos _, ?_⟩
      by_contra hset
      have := h.timer hgood (by simpa using hset)
      omega
  · have heq : s.restartWork checkAvailable = { s with
        pendingRestart := s.pendingRestart + 1, checkAvailable := checkAvailable,
        recvDataCount := 0 } := by
      unfold Sender.restartWork
      rw [if_neg hpending]
    rw [heq]
    exact ⟨h.state, h.newState, h.bare, h.down, h.closed, h.foot, h.serves,
      fun hgood hinactive => ⟨Nat.succ_pos _, (h.waits hgood hinactive).2⟩,
      fun _ _ => Nat.succ_pos _, h.served⟩

/-- An event leaves a sender steady. -/
theorem Steady.onEvent (h : s.Steady good) (hdetached : s.detached = false)
    (hnew : good → s.newState = sndrStateMax) (e : Event)
    (hgives : good → sys.Gives s.restarts (s.onEvent sys e).restarts) :
    (s.onEvent sys e).Steady good := by
  cases e with
  | startWork parses =>
    cases parses with
    | true => exact h.udpRecvChunk hgives
    | false => exact h
  | startRecv => exact h.udpRecvChunk hgives
  | stopWork => exact h.freed bcrSuccess
  | restartWork checkAvailable => exact h.restartWork hdetached hnew checkAvailable
  | other => exact h

/-- The queue leaves a sender steady. -/
theorem Steady.onEventProcess (h : s.Steady good) (e : Event)
    (hgives : good → sys.Gives s.restarts (s.onEventProcess sys e).restarts) :
    (s.onEventProcess sys e).Steady good := by
  have hevent (t : Sender) := (grows_onEvent sys t e).restarts
  have hlast (t : Sender) := (grows_exitCheck sys (t.onEvent sys e)).restarts
  refine h.unlessExit (fun t => Nat.le_trans (hevent t) (hlast t))
    (fun t ht hdetached hnew hmore => ?_) hgives
  have hfirst (hgood : good) : sys.Gives t.restarts (t.onEvent sys e).restarts :=
    (hmore hgood).mono (Nat.le_refl _) (hlast t)
  refine ((ht.onEvent hdetached hnew e hfirst).exitCheck fun hgood => ?_).1
  exact (hmore hgood).mono (hevent t) (Nat.le_refl _)

/-- The availability check runs out without data, and no other restart waits. -/
def LoneTimeout (s : Sender) : Prop :=
  s.checkTimer = true ∧ s.outside = false ∧ s.state ≤ s.newState ∧ s.recvDataCount = 0 ∧
    s.pendingRestart ≤ 1

instance (s : Sender) : Decidable s.LoneTimeout := inferInstanceAs (Decidable (_ ∧ _))

/-- What the availability check finds restarts nothing by itself. -/
theorem checked_restarts (s : Sender) :
    ({ s with checkTimer := false }.checked).restarts = s.restarts := by
  unfold checked
  split <;> rfl

/-- What the availability check finds leaves a sender steady. -/
theorem Steady.checked (h : s.Steady good) (hdetached : s.detached = false)
    (hnew : good → s.newState = sndrStateMax)
    (hmany : good → s.recvDataCount = 0 → 1 < s.pendingRestart) :
    ({ s with checkTimer := false }.checked).Steady good := by
  have hattached : s.detached ≠ true := by simp [hdetached]
  unfold Sender.checked
  split
  · refine ⟨h.state, h.newState, h.bare, h.down, h.closed, h.foot, h.serves, ?_, nofun, ?_⟩
    · intro hgood hinactive
      have hsame : s.newState = sndrStateInactive := hinactive
      rw [hnew hgood] at hsame
      cases hsame
    · exact fun hgood => served_note (s := s) (m := .calls (.onRestart bcrSuccess)) trivial
        (h.served hgood)
  · rename_i hnone
    have hless (hgood : good) : 0 < s.pendingRestart - 1 :=
      Nat.sub_pos_of_lt (hmany hgood (Nat.eq_zero_of_not_pos hnone))
    refine ⟨h.state, .inr (.inl rfl), h.bare, fun hdown => absurd hdown hattached, h.closed, ?_,
      nofun, fun hgood _ => ⟨hless hgood, rfl⟩, nofun, h.served⟩
    intro hgood hinactive
    have hsame : s.state = sndrStateInactive := hinactive
    rw [(h.serves hgood (hnew hgood)).1] at hsame
    cases hsame

/-- The task of the availability check leaves a sender steady. -/
theorem Steady.onCheckTimer (h : s.Steady good) (htimer : s.checkTimer = true)
    (houtside : s.outside = false) (hlone : good → ¬ s.LoneTimeout)
    (hgives : good → sys.Gives s.restarts (s.onCheckTimer sys).restarts) :
    (s.onCheckTimer sys).Steady good := by
  -- in a good run the ladder does not restart a sender that waits for the check
  have hstays (hgood : good) (hgo : (s.exitCheck sys).1 = false) :
      s.exitCheck sys = (false, s) := by
    cases hex : s.exitCheck sys with
    | mk leave t =>
      have hladder := ladder_exitCheck sys s
      rw [hex] at hladder hgo
      cases hladder with
      | goesOn => rfl
      | pending => cases hgo
      | controlled => cases hgo
      | restarts hnew =>
        have hoff := (h.waits hgood hnew).2
        rw [htimer] at hoff
        cases hoff
      | rests hnew =>
        have hoff := (h.waits hgood hnew).2
        rw [htimer] at hoff
        cases hoff
      | shutsDown => cases hgo
      | isDown => cases hgo
  have hexit := (grows_exitCheck sys s).restarts
  unfold Sender.onCheckTimer Sender.unlessExit at hgives ⊢
  split at hgives
  · rename_i hleave
    rw [if_pos hleave]
    exact (h.exitCheck hgives).1
  · rename_i hleave
    rw [if_neg hleave]
    have hgo : (s.exitCheck sys).1 = false := by simpa using hleave
    have hchecks : (s.exitCheck sys).2.restarts ≤
        ({ (s.exitCheck sys).2 with checkTimer := false }.checked.exitCheck sys).2.restarts := by
      have hlast := (grows_exitCheck sys
        { (s.exitCheck sys).2 with checkTimer := false }.checked).restarts
      rwa [checked_restarts] at hlast
    have hfirst (hgood : good) : sys.Gives s.restarts (s.exitCheck sys).2.restarts :=
      (hgives hgood).mono (Nat.le_refl _) hchecks
    obtain ⟨hsteady, hpass⟩ := h.exitCheck hfirst
    obtain ⟨hattached, hmax⟩ := hpass hgo
    have hmany (hgood : good) (hnone : (s.exitCheck sys).2.recvDataCount = 0) :
        1 < (s.exitCheck sys).2.pendingRestart := by
      have hnew := hmax hgood
      rw [hstays hgood hgo] at hnone hnew ⊢
      by_contra hfew
      exact hlone hgood ⟨htimer, houtside, h.le_of_newState hnew, hnone, Nat.le_of_not_lt hfew⟩
    refine ((hsteady.checked hattached hmax hmany).exitCheck fun hgood => ?_).1
    rw [checked_restarts]
    exact (hgives hgood).mono hexit (Nat.le_refl _)

/-- A sender whose queue has been shut down is steady without the socket. -/
theorem Steady.onEventProcShutdown (h : s.Steady good) (hdown : s.detached = true) :
    s.onEventProcShutdown.Steady good := by
  obtain ⟨hfoot, hfreed⟩ := h.down hdown
  refine ⟨h.state, h.newState, fun _ => ⟨rfl, (h.bare hfoot).2⟩, h.down, fun _ => hdown, h.foot, ?_,
    h.waits, h.timer, ?_⟩
  · intro _ hmax
    have hsame : s.newState = sndrStateMax := hmax
    rw [hfreed] at hsame
    cases hsame
  · exact fun hgood => served_note (s := s) (m := .calls .onUdpClosed) trivial (h.served hgood)

/-- A step under which a sender keeps to the sockets it has: a restart gets its socket, and the
availability check does not run out while no other restart waits. -/
def Sound (sys : System) (s : Sender) (e : Step) : Prop :=
  (e = .checkTimer → ¬ s.LoneTimeout) ∧ sys.Gives s.restarts (s.step sys e).restarts

/-- A step leaves a sender steady, in a good run if it is sound. -/
theorem Steady.step (h : s.Steady good) {e : Step} (he : good → Sound sys s e) :
    (s.step sys e).Steady good := by
  have hlone (hgood : good) := (he hgood).1
  have hgives (hgood : good) := (he hgood).2
  cases e with
  | send result =>
    exact h.pass .send (fun t => grows_udpSend t result) (fun t ht _ => ht.udpSend result) hgives
  | sendMMsg iovecLen result =>
    refine h.pass .sendMMsg (fun t => grows_udpSendMMsg t iovecLen result) (fun t ht _ => ?_) hgives
    split
    · exact ht
    · exact ht.udpSend result
  | connect => exact h.pass .connect (fun t => Grows.refl t) (fun _ ht _ => ht) hgives
  | recvDone result size =>
    rw [Sender.step] at hgives ⊢
    split at hgives
    · rename_i hskip
      rwa [if_pos hskip]
    · rename_i hdo
      rw [if_neg hdo]
      exact h.recvDone result size hgives
  | sendDone result =>
    rw [Sender.step] at hgives ⊢
    split at hgives
    · rename_i hskip
      rwa [if_pos hskip]
    · rename_i hdo
      rw [if_neg hdo]
      exact h.sendDone result hgives
  | returned threw =>
    rw [Sender.step] at hgives ⊢
    split at hgives
    · rename_i hdo
      rw [if_pos hdo]
      exact h.returned threw hgives
    · rename_i hskip
      rwa [if_neg hskip]
  | connectDone =>
    rw [Sender.step] at hgives ⊢
    split at hgives
    · rename_i hskip
      rwa [if_pos hskip]
    · rename_i hdo
      rw [if_neg hdo]
      exact (h.exitCheck hgives).1
  | event e =>
    rw [Sender.step] at hgives ⊢
    split at hgives
    · rename_i hskip
      rwa [if_pos hskip]
    · rename_i hdo
      rw [if_neg hdo]
      exact h.onEventProcess e hgives
  | checkTimer =>
    rw [Sender.step] at hgives ⊢
    split at hgives
    · rename_i hskip
      rwa [if_pos hskip]
    · rename_i hdo
      rw [if_neg hdo]
      simp only [not_or, not_not] at hdo
      exact h.onCheckTimer hdo.2 (by simpa using hdo.1) (fun hgood => hlone hgood rfl) hgives
  | ctrl n => exact h.of_eq rfl rfl rfl (fun _ hzero => hzero) rfl rfl rfl rfl h.served
  | shutdown =>
    rw [Sender.step]
    split
    · exact h
    · rename_i hdo
      simp only [not_or, not_not] at hdo
      exact h.onEventProcShutdown hdo.2.1

/-- A sender is created steady. -/
theorem steady_create {a : Setup} (hs : create a = some s) : s.Steady good := by
  unfold create at hs
  split at hs
  · rename_i hok
    rw [initSocket_of_succeeds (succeeds_of_initSocket hok)] at hs
    cases hs
    exact ⟨.inr (.inr rfl), .inr (.inr rfl), nofun, nofun, nofun, nofun, fun _ _ => ⟨rfl, rfl⟩,
      nofun, nofun, nofun⟩
  · cases hs

/-- In a run in which every restart gets its socket and no availability check runs out while no
other restart waits, whatever passes the test of `_ExitCheck` has a socket that has been created
and bound. -/
theorem passes_with_socket {a : Setup} (hs : create a = some s) {steps : List Step}
    (hsteps : Runs.Meets (step sys) (Sound sys) s steps) :
    ∀ m ∈ (Runs.run (step sys) s steps).trace, m.Served :=
  (Runs.invariant_of_meets (I := Steady True) (fun _ _ h he => h.step fun _ => he)
    (steady_create hs) hsteps).served trivial

/-- A system that gives every socket it is asked for. -/
def generous : Setup where
  allocated := true
  create := bcrSuccess
  hostParses := true
  bind := bcrSuccess
  schedule := bcrSuccess

/-- What happens when a receive is under way when the sender is restarted. -/
def restartedTrace : List Note :=
  (Runs.run (step ⟨fun _ => generous, fun _ => bcrSuccess⟩)
    { blank with socket := some ⟨true, true⟩, state := sndrStateReading }
    [.event .startRecv, .event (.restartWork true), .recvDone bcrCanceled 0, .returned false,
      .recvDone bcrSuccess 12, .returned false, .checkTimer, .send bcrSuccess]).trace

/-- The system gives every socket, a receive is under way when the sender is restarted, and
the availability check finds the data that the new socket has received. -/
theorem passes_with_socket_restarted :
    .passes .send (some ⟨true, true⟩) ∈ restartedTrace ∧ ∀ m ∈ restartedTrace, m.Served := by
  have hgives (first last : ℕ) :
      System.Gives ⟨fun _ => generous, fun _ => bcrSuccess⟩ first last :=
    fun _ _ _ => ⟨rfl, rfl, rfl, rfl⟩
  refine ⟨by decide, passes_with_socket (a := generous) rfl ?_⟩
  exact ⟨⟨nofun, hgives _ _⟩, ⟨nofun, hgives _ _⟩, ⟨nofun, hgives _ _⟩, ⟨nofun, hgives _ _⟩,
    ⟨nofun, hgives _ _⟩, ⟨nofun, hgives _ _⟩, ⟨fun _ => by decide, hgives _ _⟩,
    ⟨nofun, hgives _ _⟩, trivial⟩

/-- A system whose address can be bound once. -/
def taken : Setup := { generous with bind := bcrAddrNotAvail }

/-- A datagram is sent on a missing socket after a restart that got none; and after an
availability check that ran out the cancelled receive starts another one on a missing socket. -/
theorem passes_without_socket :
    ∃ s, create generous = some s ∧
      .passes .send none ∈ (Runs.run (step ⟨fun _ => taken, fun _ => bcrSuccess⟩) s
        [.event (.restartWork false), .send bcrSuccess]).trace ∧
      .passes .recvChunk none ∈ (Runs.run (step ⟨fun _ => generous, fun _ => bcrSuccess⟩) s
        [.event (.restartWork true), .checkTimer, .recvDone bcrCanceled 0]).trace :=
  ⟨_, rfl, by decide, by decide⟩

end Sender

end Udp
