import TTSignal.Udp.Sender

/-!
# What the ladder does

`_ExitCheck` has seven outcomes; they are listed once, with what a restart leaves behind, and
the rest of the development takes them from here. Every operation of a sender adds to what has
happened and takes nothing back.
-/

namespace Udp

/-- The socket is created and bound. -/
def Setup.Succeeds (a : Setup) : Prop :=
  a.allocated = true ∧ a.create = bcrSuccess ∧ a.hostParses = true ∧ a.bind = bcrSuccess

instance (a : Setup) : Decidable a.Succeeds := inferInstanceAs (Decidable (_ ∧ _))

/-- What passes the test of `_ExitCheck` has a socket that has been created and bound. -/
def Note.Served : Note → Prop
  | .passes _ socket => socket = some ⟨true, true⟩
  | .calls _ => True

/-- The callbacks of a restart. -/
def Callback.OfRestart (c : Callback) : Prop :=
  c = .onCheckAvailable ∨ ∃ result, c = .onRestart result

namespace Sender

variable {sys : System} {s t u : Sender} {a : Setup} {n : ℕ}

/-- The socket has been created and bound. -/
def HasSocket (s : Sender) : Prop := s.socket = some ⟨true, true⟩

/-- Success has one way. -/
theorem initSocket_of_succeeds (h : a.Succeeds) :
    s.initSocket a = (bcrSuccess, { s with socket := some ⟨true, true⟩ }) := by
  obtain ⟨hallocated, hcreate, hparses, hbind⟩ := h
  unfold initSocket
  rw [if_neg (by simp [hallocated]), if_neg (by simp [hcreate]), if_neg (by simp [hparses]),
    if_neg (by simp [hbind])]

/-- Nothing else makes `_InitSocket` succeed. -/
theorem succeeds_of_initSocket (h : (s.initSocket a).1 = bcrSuccess) : a.Succeeds := by
  unfold initSocket at h
  split at h
  · cases h
  · split at h
    · contradiction
    · split at h
      · cases h
      · split at h
        · contradiction
        · rename_i hallocated hcreate hparses hbind
          simp only [not_not] at hallocated hcreate hparses hbind
          exact ⟨hallocated, hcreate, hparses, hbind⟩

/-- The initialization of a socket changes nothing but the socket. -/
theorem initSocket_eq (s : Sender) (a : Setup) :
    ∃ socket, (s.initSocket a).2 = { s with socket := socket } := by
  unfold initSocket
  split
  · exact ⟨_, rfl⟩
  · split
    · exact ⟨_, rfl⟩
    · split
      · exact ⟨_, rfl⟩
      · split <;> exact ⟨_, rfl⟩

/-- Starting a receive changes only the counts of receives. -/
theorem recvV2_eq (sys : System) (s : Sender) :
    ∃ pending started, s.recvV2 sys = { s with pendingRecv := pending, receives := started } := by
  unfold recvV2
  split
  · exact ⟨s.pendingRecv, s.receives, rfl⟩
  · split
    · exact ⟨_, _, rfl⟩
    · exact ⟨s.pendingRecv, _, rfl⟩

/-- With no lower state asked for `_ExitCheck` does nothing. -/
theorem exitCheckFuel_of_le (h : s.state ≤ s.newState) :
    exitCheckFuel sys (n + 1) s = (false, s) := if_pos h

/-- With no lower state asked for a receive is started on the socket. -/
theorem recvChunkWith_of_le (sys : System) (n : ℕ) (h : s.state ≤ s.newState) :
    ∃ pending started, s.recvChunkWith sys (exitCheckFuel sys (n + 1)) =
      { s.note (.passes .recvChunk s.socket) with
        pendingRecv := pending, receives := started } := by
  unfold recvChunkWith
  rw [exitCheckFuel_of_le h, if_neg (by simp), recvMore]
  split
  · exact ⟨s.pendingRecv, s.receives, rfl⟩
  · obtain ⟨pending, started, hrecv⟩ := recvV2_eq sys (s.note (.passes .recvChunk s.socket))
    rw [hrecv, exitCheckFuel_of_le (by exact h)]
    exact ⟨pending, started, rfl⟩

/-- What an operation adds to the past of a sender: restarts, and notes whose callbacks are of
a given kind. -/
structure Grows (P : Callback → Prop) (s t : Sender) : Prop where
  /-- Restarts are not taken back. -/
  restarts : s.restarts ≤ t.restarts
  /-- It closes only by the shutdown event. -/
  closed : t.closed = s.closed
  /-- What has happened is not taken back. -/
  trace : ∃ notes, t.trace = s.trace ++ notes ∧ ∀ c, .calls c ∈ notes → P c

section Grows

variable {P Q : Callback → Prop}

/-- The past is as it was. -/
theorem Grows.same (hrestarts : t.restarts = s.restarts) (hclosed : t.closed = s.closed)
    (htrace : t.trace = s.trace) : Grows P s t where
  restarts := by omega
  closed := hclosed
  trace := ⟨[], by simpa using htrace, by simp⟩

/-- Nothing is added by doing nothing. -/
theorem Grows.refl (s : Sender) : Grows P s s := Grows.same rfl rfl rfl

/-- One operation after the other. -/
theorem Grows.trans (h₁ : Grows P s t) (h₂ : Grows P t u) : Grows P s u where
  restarts := by
    have := h₁.restarts
    have := h₂.restarts
    omega
  closed := h₂.closed.trans h₁.closed
  trace := by
    obtain ⟨first, hfirst, hP⟩ := h₁.trace
    obtain ⟨second, hsecond, hP'⟩ := h₂.trace
    refine ⟨first ++ second, by rw [hsecond, hfirst, List.append_assoc], ?_⟩
    intro c hc
    rcases List.mem_append.mp hc with hc | hc
    · exact hP c hc
    · exact hP' c hc

/-- Callbacks of a wider kind. -/
theorem Grows.mono (h : Grows P s t) (hPQ : ∀ c, P c → Q c) : Grows Q s t where
  restarts := h.restarts
  closed := h.closed
  trace := by
    obtain ⟨notes, hnotes, hP⟩ := h.trace
    exact ⟨notes, hnotes, fun c hc => hPQ c (hP c hc)⟩

/-- A note is added. -/
theorem grows_note (s : Sender) {m : Note} (hm : ∀ c, m = .calls c → P c) :
    Grows P s (s.note m) where
  restarts := Nat.le_refl _
  closed := rfl
  trace := ⟨[m], rfl, fun c hc => hm c (List.mem_singleton.mp hc).symm⟩

end Grows

/-- What a restart leaves: a sender that reads, with the socket if there is one to have. -/
structure Restarted (sys : System) (s t : Sender) : Prop where
  /-- It reads. -/
  state : t.state = sndrStateReading
  /-- No lower state is asked for. -/
  newState : t.newState = sndrStateMax
  /-- Its queue is as it was. -/
  detached : t.detached = s.detached
  /-- One restart more. -/
  restarts : t.restarts = s.restarts + 1
  /-- It has the socket. -/
  socket : (sys.setup s.restarts).Succeeds → t.HasSocket
  /-- An availability check belongs to a restart that is not over. -/
  timer : s.checkTimer = false → 0 < s.pendingRestart → t.checkTimer = true → 0 < t.pendingRestart
  /-- What has happened is of the restart. -/
  grows : Grows Callback.OfRestart s t
  /-- The receive of the availability check has the socket. -/
  served : (sys.setup s.restarts).Succeeds → (∀ m ∈ s.trace, m.Served) → ∀ m ∈ t.trace, m.Served

/-- A restart on its way: what it leaves but the states and the count of restarts that wait. -/
structure Underway (sys : System) (s t : Sender) : Prop where
  /-- Its queue is as it was. -/
  detached : t.detached = s.detached
  /-- One restart more. -/
  restarts : t.restarts = s.restarts + 1
  /-- The restart is not over. -/
  pendingRestart : t.pendingRestart = s.pendingRestart
  /-- The availability check is not scheduled yet. -/
  checkTimer : t.checkTimer = s.checkTimer
  /-- It has the socket. -/
  socket : (sys.setup s.restarts).Succeeds → t.HasSocket
  /-- What has happened is of the restart. -/
  grows : Grows Callback.OfRestart s t
  /-- The receive of the availability check has the socket. -/
  served : (sys.setup s.restarts).Succeeds → (∀ m ∈ s.trace, m.Served) → ∀ m ∈ t.trace, m.Served

/-- A note more. -/
theorem served_note {m : Note} (hm : m.Served) (hserved : ∀ k ∈ s.trace, k.Served) :
    ∀ k ∈ (s.note m).trace, k.Served := by
  intro k hk
  rcases List.mem_append.mp hk with hk | hk
  · exact hserved k hk
  · have heq : k = m := List.mem_singleton.mp hk
    rw [heq]
    exact hm

/-- A restart begins with the socket. -/
theorem underway_initSocket (sys : System) (s : Sender) :
    Underway sys s ({ s with restarts := s.restarts + 1 }.initSocket (sys.setup s.restarts)).2 := by
  obtain ⟨socket, hsocket⟩ := initSocket_eq { s with restarts := s.restarts + 1 }
    (sys.setup s.restarts)
  constructor
  · rw [hsocket]
  · rw [hsocket]
  · rw [hsocket]
  · rw [hsocket]
  · intro hsucceeds
    rw [initSocket_of_succeeds hsucceeds]
    rfl
  · rw [hsocket]
    exact ⟨Nat.le_succ _, rfl, [], by simp, by simp⟩
  · rw [hsocket]
    exact fun _ hserved => hserved

/-- The availability check begins with a receive. -/
theorem Underway.check {ec : Sender → Bool × Sender} (h : Underway sys s t) (pending started : ℕ)
    (hec : ({ t with recvDataCount := 0 }.note (.calls .onCheckAvailable)).recvChunkWith sys ec =
      { ({ t with recvDataCount := 0 }.note (.calls .onCheckAvailable)).note
          (.passes .recvChunk t.socket) with pendingRecv := pending, receives := started }) :
    Underway sys s
      (({ t with recvDataCount := 0 }.note (.calls .onCheckAvailable)).recvChunkWith sys ec) := by
  rw [hec]
  constructor
  · exact h.detached
  · exact h.restarts
  · exact h.pendingRestart
  · exact h.checkTimer
  · exact h.socket
  · have hcall : Grows Callback.OfRestart t (t.note (.calls .onCheckAvailable)) :=
      grows_note t fun c hc => by
        cases hc
        exact .inl rfl
    have hpass : Grows Callback.OfRestart (t.note (.calls .onCheckAvailable))
        ((t.note (.calls .onCheckAvailable)).note (.passes .recvChunk t.socket)) :=
      grows_note _ fun c hc => by cases hc
    have hall := (h.grows.trans hcall).trans hpass
    exact ⟨hall.restarts, hall.closed, hall.trace⟩
  · intro hsucceeds hserved
    exact served_note (h.socket hsucceeds)
      (served_note (s := t) (m := .calls .onCheckAvailable) trivial (h.served hsucceeds hserved))

/-- A restart is over. -/
theorem Underway.endRestart (h : Underway sys s t) (result : BCRESULT) :
    Restarted sys s (t.endRestart result).reopened := by
  constructor
  · rfl
  · rfl
  · exact h.detached
  · exact h.restarts
  · exact h.socket
  · intro htimer _ hset
    have hsame : t.checkTimer = true := hset
    rw [h.checkTimer, htimer] at hsame
    cases hsame
  · have hcall : Grows Callback.OfRestart t (t.note (.calls (.onRestart result))) :=
      grows_note t fun c hc => by
        cases hc
        exact .inr ⟨result, rfl⟩
    have hall := h.grows.trans hcall
    exact ⟨hall.restarts, hall.closed, hall.trace⟩
  · intro hsucceeds hserved
    exact served_note (s := t) (m := .calls (.onRestart result)) trivial
      (h.served hsucceeds hserved)

/-- A restart waits for the availability check. -/
theorem Underway.scheduled (h : Underway sys s t) :
    Restarted sys s { t with checkTimer := true }.reopened := by
  constructor
  · rfl
  · rfl
  · exact h.detached
  · exact h.restarts
  · exact h.socket
  · intro _ hpending _
    have hsame : t.pendingRestart = s.pendingRestart := h.pendingRestart
    exact hsame ▸ hpending
  · exact ⟨h.grows.restarts, h.grows.closed, h.grows.trace⟩
  · exact h.served

/-- A sender at the foot of the ladder that is to stay there is restarted. -/
theorem restarted_restart (sys : System) (hle : s.state ≤ s.newState) :
    Restarted sys s (s.restart sys (exitCheckFuel sys 1)).reopened := by
  have hbegun := underway_initSocket sys s
  obtain ⟨socket, hsocket⟩ := initSocket_eq { s with restarts := s.restarts + 1 }
    (sys.setup s.restarts)
  unfold restart restarted
  split
  · obtain ⟨pending, started, hrecv⟩ := recvChunkWith_of_le sys 0
      (s := { ({ s with restarts := s.restarts + 1 }.initSocket (sys.setup s.restarts)).2 with
        recvDataCount := 0 }.note (.calls .onCheckAvailable)) (by rw [hsocket]; exact hle)
    have hchecked := hbegun.check pending started hrecv
    unfold checkScheduled
    split
    · exact hchecked.scheduled
    · exact hchecked.endRestart _
  · exact hbegun.endRestart _

/-- The outcomes of `_ExitCheck`: whether the caller is to leave, and the sender. -/
inductive Ladder (sys : System) (s : Sender) : Bool × Sender → Prop
  /-- No lower state is asked for. -/
  | goesOn (hle : s.state ≤ s.newState) : Ladder sys s (false, s)
  /-- Operations are pending. -/
  | pending (hlt : s.newState < s.state)
      (hstate : s.state = sndrStateReading ∨ s.state = sndrStateReady) :
      Ladder sys s (true, { s with state := sndrStateReady })
  /-- The queue has controls. -/
  | controlled (hlt : s.newState < s.state)
      (hstate : s.state = sndrStateReading ∨ s.state = sndrStateReady) (hrecv : s.pendingRecv = 0) :
      Ladder sys s (true, { s with state := sndrStateReady, socket := none })
  /-- It is restarted. -/
  | restarts {next : Sender} (hnew : s.newState = sndrStateInactive)
      (hpending : 0 < s.pendingRestart)
      (hrestarted : Restarted sys
        { s with state := sndrStateInactive, socket := none, checkTimer := false } next) :
      Ladder sys s (false, next)
  /-- It stays at the foot of the ladder. -/
  | rests (hnew : s.newState = sndrStateInactive) (hrecv : s.pendingRecv = 0)
      (hpending : s.pendingRestart = 0) :
      Ladder sys s (false, { s with state := sndrStateInactive, socket := none })
  /-- It is shut down. -/
  | shutsDown (hlt : s.newState < s.state) (hnew : s.newState ≠ sndrStateInactive)
      (hrecv : s.pendingRecv = 0) :
      Ladder sys s (true, { s with
        state := sndrStateInactive, socket := none, checkTimer := false, detached := true })
  /-- It is shut down already. -/
  | isDown (hlt : s.newState < s.state)
      (hstate : ¬ (s.state = sndrStateReading ∨ s.state = sndrStateReady)) :
      Ladder sys s (true, s.shutDown)

/-- From `READING` as from `READY` the ladder goes on in `READY`. -/
theorem leaveReading_eq (h : s.state = sndrStateReading ∨ s.state = sndrStateReady) :
    s.leaveReading = { s with state := sndrStateReady } := by
  unfold leaveReading
  rcases h with h | h
  · rw [if_pos h]
  · rw [if_neg (by rw [h]; decide), ← h]

/-- Everything `_ExitCheck` does. -/
theorem ladder_exitCheck (sys : System) (s : Sender) : Ladder sys s (s.exitCheck sys) := by
  unfold Sender.exitCheck
  by_cases hle : s.state ≤ s.newState
  · rw [exitCheckFuel_of_le hle]
    exact .goesOn hle
  · have hlt : s.newState < s.state := by omega
    rw [exitCheckFuel, if_neg hle]
    by_cases hstate : s.state = sndrStateReading ∨ s.state = sndrStateReady
    · rw [leaveReading_eq hstate, if_pos rfl, comeDown]
      split
      · exact .pending hlt hstate
      · rename_i hnone
        have hrecv : s.pendingRecv = 0 := by
          by_contra hrecv
          exact hnone (.inl hrecv)
        split
        · exact .controlled hlt hstate hrecv
        · unfold bottom
          split
          · rename_i hnew
            split
            · rename_i hpending
              refine .restarts hnew hpending (restarted_restart sys ?_)
              exact Nat.le_of_eq hnew.symm
            · rename_i hpending
              exact .rests hnew hrecv (Nat.eq_zero_of_not_pos hpending)
          · rename_i hnew
            exact .shutsDown hlt hnew hrecv
    · have hsame : s.leaveReading = s := if_neg fun h => hstate (.inl h)
      rw [hsame, if_neg fun h => hstate (.inr h)]
      exact .isDown hlt hstate

/-- The ladder calls the handler only for a restart. -/
theorem grows_exitCheck (sys : System) (s : Sender) :
    Grows Callback.OfRestart s (s.exitCheck sys).2 := by
  cases hex : s.exitCheck sys with
  | mk leave t =>
    have hladder := ladder_exitCheck sys s
    rw [hex] at hladder
    cases hladder with
    | goesOn => exact Grows.refl s
    | pending => exact Grows.same rfl rfl rfl
    | controlled => exact Grows.same rfl rfl rfl
    | restarts _ _ hrestarted =>
      have hgrows := hrestarted.grows
      exact ⟨hgrows.restarts, hgrows.closed, hgrows.trace⟩
    | rests => exact Grows.same rfl rfl rfl
    | shutsDown => exact Grows.same rfl rfl rfl
    | isDown =>
      unfold shutDown
      split
      · exact Grows.same rfl rfl rfl
      · exact Grows.refl s

section Operations

variable {P : Callback → Prop}

/-- What adds behind a test of `_ExitCheck` adds with it. -/
theorem grows_unlessExit (hP : ∀ c : Callback, c.OfRestart → P c) {rest : Sender → Sender}
    (hrest : ∀ t, Grows P t (rest t)) (s : Sender) : Grows P s (s.unlessExit sys rest) := by
  have hexit := (grows_exitCheck sys s).mono hP
  unfold unlessExit
  split
  · exact hexit
  · exact hexit.trans (hrest _)

/-- Starting a receive adds nothing. -/
theorem grows_recvV2 (sys : System) (s : Sender) : Grows P s (s.recvV2 sys) := by
  obtain ⟨pending, started, hrecv⟩ := recvV2_eq sys s
  rw [hrecv]
  exact Grows.same rfl rfl rfl

/-- A pass of the test of `_ExitCheck` is not a callback. -/
theorem grows_passes (s : Sender) (user : User) (socket : Option Socket) :
    Grows P s (s.note (.passes user socket)) := grows_note s fun c hc => by cases hc

/-- What uses the socket adds nothing but its pass. -/
theorem grows_pass (sys : System) {use : Sender → Sender}
    (huse : ∀ t, Grows Callback.OfRestart t (use t)) (s : Sender) (user : User) :
    Grows Callback.OfRestart s (s.pass sys user use) :=
  grows_unlessExit (fun _ hc => hc) (fun t => (grows_passes t user t.socket).trans (huse _)) s

/-- The end of a receive calls the handler only for a restart. -/
theorem grows_recvMore (sys : System) (s : Sender) :
    Grows Callback.OfRestart s (s.recvMore sys (Sender.exitCheck sys)) := by
  unfold recvMore
  split
  · exact Grows.refl s
  · exact (grows_recvV2 sys s).trans (grows_exitCheck sys _)

/-- A receive is a user of the socket behind its test of `_ExitCheck`. -/
theorem udpRecvChunk_eq (sys : System) (s : Sender) :
    s.udpRecvChunk sys = s.pass sys .recvChunk fun t => t.recvMore sys (Sender.exitCheck sys) := rfl

/-- A receive calls the handler only for a restart. -/
theorem grows_udpRecvChunk (sys : System) (s : Sender) :
    Grows Callback.OfRestart s (s.udpRecvChunk sys) := by
  rw [udpRecvChunk_eq]
  exact grows_pass sys (grows_recvMore sys) s .recvChunk

/-- A send adds nothing. -/
theorem grows_udpSend (s : Sender) (result : BCRESULT) : Grows P s (s.udpSend result) := by
  unfold udpSend
  split
  · exact Grows.refl s
  · split
    · exact Grows.same rfl rfl rfl
    · exact Grows.refl s

/-- A send of many adds nothing. -/
theorem grows_udpSendMMsg (s : Sender) (iovecLen : ℕ) (result : BCRESULT) :
    Grows P s (if iovecLen > bcSocketMaxScatterGather then s else s.udpSend result) := by
  split
  · exact Grows.refl s
  · exact grows_udpSend s result

/-- A failed operation adds nothing. -/
theorem grows_onResult (s : Sender) (result : BCRESULT) : Grows P s (s.onResult result) := by
  unfold onResult
  split
  · exact Grows.same rfl rfl rfl
  · exact Grows.refl s

/-- Asking for a restart changes no state the sender is in. -/
theorem restartWork_eq (s : Sender) (checkAvailable : Bool) :
    ∃ newState status, s.restartWork checkAvailable = { s with
      newState := newState, closeStatus := status, pendingRestart := s.pendingRestart + 1,
      checkAvailable := checkAvailable, recvDataCount := 0 } := by
  unfold restartWork
  split
  · exact ⟨_, _, rfl⟩
  · exact ⟨_, _, rfl⟩

/-- An event calls the handler only for a restart. -/
theorem grows_onEvent (sys : System) (s : Sender) (e : Event) :
    Grows Callback.OfRestart s (s.onEvent sys e) := by
  cases e with
  | startWork parses =>
    cases parses with
    | true => exact grows_udpRecvChunk sys s
    | false => exact Grows.refl s
  | startRecv => exact grows_udpRecvChunk sys s
  | stopWork => exact Grows.same rfl rfl rfl
  | restartWork checkAvailable =>
    obtain ⟨newState, status, hwork⟩ := restartWork_eq s checkAvailable
    change Grows Callback.OfRestart s (s.restartWork checkAvailable)
    rw [hwork]
    exact Grows.same rfl rfl rfl
  | other => exact Grows.refl s

/-- The queue calls the handler only for a restart. -/
theorem grows_onEventProcess (sys : System) (s : Sender) (e : Event) :
    Grows Callback.OfRestart s (s.onEventProcess sys e) :=
  grows_unlessExit (fun _ hc => hc)
    (fun t => (grows_onEvent sys t e).trans (grows_exitCheck sys _)) s

/-- The availability check calls the handler only for a restart. -/
theorem grows_onCheckTimer (sys : System) (s : Sender) :
    Grows Callback.OfRestart s (s.onCheckTimer sys) := by
  refine grows_unlessExit (fun _ hc => hc) (fun t => ?_) s
  refine Grows.trans ?_ (grows_exitCheck sys _)
  unfold checked
  split
  · have hcall := grows_note (P := Callback.OfRestart) t (m := .calls (.onRestart bcrSuccess))
      fun c hc => by
        cases hc
        exact .inr ⟨_, rfl⟩
    exact ⟨hcall.restarts, hcall.closed, hcall.trace⟩
  · exact Grows.same rfl rfl rfl

end Operations

/-- A handler is called without the lock at the end of a callback of the socket. -/
theorem grows_callOutside (s : Sender) (callback : Callback) :
    Grows (fun c => c.OfRestart ∨ c = callback) s (s.callOutside callback) := by
  have hcall := grows_note (P := fun c => c.OfRestart ∨ c = callback) s (m := .calls callback)
    fun c hc => by
      cases hc
      exact .inr rfl
  exact ⟨hcall.restarts, hcall.closed, hcall.trace⟩

/-- A finished receive calls the handler for its data. -/
theorem grows_recvDone (sys : System) (s : Sender) (result : BCRESULT) (size : ℕ) :
    Grows (fun c => c.OfRestart ∨ c = .onRecvData) s (s.recvDone sys result size) := by
  have hbegun : Grows (fun c => c.OfRestart ∨ c = .onRecvData) s
      ({ s with pendingRecv := s.pendingRecv - 1 }.onResult result) :=
    Grows.trans (t := { s with pendingRecv := s.pendingRecv - 1 }) (Grows.same rfl rfl rfl)
      (grows_onResult _ result)
  refine hbegun.trans (grows_unlessExit (fun _ hc => .inl hc) (fun t => ?_) _)
  have hmore := (grows_udpRecvChunk sys t).mono (Q := fun c => c.OfRestart ∨ c = .onRecvData)
    fun _ hc => .inl hc
  refine Grows.trans (t := { t.udpRecvChunk sys with
    recvDataCount := (t.udpRecvChunk sys).recvDataCount + size }) ?_ (grows_callOutside _ _)
  exact ⟨hmore.restarts, hmore.closed, hmore.trace⟩

/-- A finished send calls the handler for it. -/
theorem grows_sendDone (sys : System) (s : Sender) (result : BCRESULT) :
    Grows (fun c => c.OfRestart ∨ c = .onSendData) s (s.sendDone sys result) := by
  have hbegun : Grows (fun c => c.OfRestart ∨ c = .onSendData) s
      ({ s with pendingSend := s.pendingSend - 1 }.onResult result) :=
    Grows.trans (t := { s with pendingSend := s.pendingSend - 1 }) (Grows.same rfl rfl rfl)
      (grows_onResult _ result)
  exact hbegun.trans (grows_unlessExit (fun _ hc => .inl hc) (fun t => grows_callOutside t _) _)

/-- The end of a callback calls the handler only for a restart. -/
theorem grows_returned (sys : System) (s : Sender) (threw : Bool) :
    Grows Callback.OfRestart s (s.returned sys threw) := by
  refine Grows.trans ?_ (grows_exitCheck sys _)
  unfold onThrown
  split <;> exact Grows.same rfl rfl rfl

end Sender

/-- The callbacks of a step but the shutdown event. -/
def Step.Calls : Step → Callback → Prop
  | .recvDone _ _, c => c.OfRestart ∨ c = .onRecvData
  | .sendDone _, c => c.OfRestart ∨ c = .onSendData
  | _, c => c.OfRestart

namespace Sender

variable {sys : System} {s : Sender}

/-- Every step but the shutdown event adds to the past. -/
theorem grows_step (sys : System) (s : Sender) {e : Step} (he : e ≠ .shutdown) :
    Grows e.Calls s (s.step sys e) := by
  cases e with
  | send result => exact grows_pass sys (fun t => grows_udpSend t result) s _
  | sendMMsg iovecLen result =>
    exact grows_pass sys (fun t => grows_udpSendMMsg t iovecLen result) s .sendMMsg
  | connect => exact grows_pass sys (fun t => Grows.refl t) s _
  | recvDone result size =>
    rw [step]
    split
    · exact Grows.refl s
    · exact grows_recvDone sys s result size
  | sendDone result =>
    rw [step]
    split
    · exact Grows.refl s
    · exact grows_sendDone sys s result
  | returned threw =>
    rw [step]
    split
    · exact grows_returned sys s threw
    · exact Grows.refl s
  | connectDone =>
    rw [step]
    split
    · exact Grows.refl s
    · exact grows_exitCheck sys s
  | event e =>
    rw [step]
    split
    · exact Grows.refl s
    · exact grows_onEventProcess sys s e
  | checkTimer =>
    rw [step]
    split
    · exact Grows.refl s
    · exact grows_onCheckTimer sys s
  | ctrl n => exact Grows.same rfl rfl rfl
  | shutdown => exact absurd rfl he

end Sender

end Udp
