import TTSignal.Udp.Serving

/-!
# How far a sender has come with its restarts

A restart that is taken up by a reading sender is on its way until the ladder is down, and is
over with the availability check, if there is one. A check that runs out lets the sender rest at
the foot of the ladder. A sender that is to come down waits for pending operations or for its
queue, and never comes back from the lowest state.
-/

namespace Udp

namespace Sender

/-- What has come to pass, as far as the phase depends on it. -/
structure Past where
  /-- The last initialization of the socket came behind the last restart that was asked for. -/
  fresh : Prop
  /-- An operation has failed for good, or the handler has thrown. -/
  failed : Prop
  /-- The sender has been told to stop. -/
  stopped : Prop

/-- The socket may have been initialized anew. -/
def Past.after (past : Past) (restarted : Prop) : Past :=
  { past with fresh := past.fresh ∨ restarted }

/-- The last restart has its socket, if there was one to have. -/
def KeepsSocket (sys : System) (s : Sender) : Prop :=
  0 < s.restarts → (sys.setup (s.restarts - 1)).Succeeds → s.HasSocket

/-- The phases of a sender whose restarts come one after the other. -/
inductive Phase (sys : System) (past : Past) (s : Sender) : Prop
  /-- It reads; an availability check may be under way. -/
  | reading (hopen : ¬ past.stopped) (hstate : s.state = sndrStateReading)
      (hnew : s.newState = sndrStateMax) (hfresh : past.fresh) (hsocket : s.KeepsSocket sys)
      (hcheck : s.pendingRestart = 0 ∧ s.checkTimer = false ∨
        s.pendingRestart = 1 ∧ s.checkTimer = true)
  /-- It comes down to be restarted. -/
  | restarting (hopen : ¬ past.stopped)
      (hstate : s.state = sndrStateReading ∨ s.state = sndrStateReady)
      (hnew : s.newState = sndrStateInactive) (hpending : s.pendingRestart = 1)
      (htimer : s.checkTimer = false)
  /-- It comes down because the availability check has run out. -/
  | givingUp (hopen : ¬ past.stopped)
      (hstate : s.state = sndrStateReading ∨ s.state = sndrStateReady)
      (hnew : s.newState = sndrStateInactive) (hpending : s.pendingRestart = 0)
      (htimer : s.checkTimer = false) (hfresh : past.fresh)
  /-- It has come down because the availability check had run out. -/
  | resting (hopen : ¬ past.stopped) (hstate : s.state = sndrStateInactive)
      (hnew : s.newState = sndrStateInactive) (hpending : s.pendingRestart = 0)
      (htimer : s.checkTimer = false) (hfresh : past.fresh)
  /-- It is to be shut down. -/
  | freed (hwhy : past.stopped ∨ past.failed)
      (hstate : s.state = sndrStateInactive ∨ s.state = sndrStateReady ∨
        s.state = sndrStateReading)
      (hnew : s.newState = sndrStateFreed)

/-- What a sender that is to come down waits for. -/
def Waits (s : Sender) : Prop :=
  s.detached = true ∨ s.pendingRecv ≠ 0 ∨ s.pendingSend ≠ 0 ∨ 0 < s.ctrls

/-- A sender that is to come down waits for something. -/
def Waiting (s : Sender) : Prop := s.newState < s.state → s.Waits

variable {sys : System} {past : Past} {s t : Sender}

/-- More of the past may be known. -/
theorem Phase.mono {later : Past} (h : s.Phase sys past) (hfresh : past.fresh → later.fresh)
    (hfailed : past.failed → later.failed) (hstopped : later.stopped ↔ past.stopped) :
    s.Phase sys later := by
  cases h with
  | reading hopen hstate hnew hf hsocket hcheck =>
    exact .reading (mt hstopped.mp hopen) hstate hnew (hfresh hf) hsocket hcheck
  | restarting hopen hstate hnew hpending htimer =>
    exact .restarting (mt hstopped.mp hopen) hstate hnew hpending htimer
  | givingUp hopen hstate hnew hpending htimer hf =>
    exact .givingUp (mt hstopped.mp hopen) hstate hnew hpending htimer (hfresh hf)
  | resting hopen hstate hnew hpending htimer hf =>
    exact .resting (mt hstopped.mp hopen) hstate hnew hpending htimer (hfresh hf)
  | freed hwhy hstate hnew =>
    exact .freed (hwhy.imp hstopped.mpr hfailed) hstate hnew

/-- A phase behind which the socket may have been initialized anew. -/
theorem Phase.after (h : s.Phase sys past) (restarted : Prop) :
    s.Phase sys (past.after restarted) := h.mono Or.inl id Iff.rfl

/-- What changes none of these fields changes no phase. -/
theorem Phase.of_eq (h : s.Phase sys past) (hstate : t.state = s.state)
    (hnew : t.newState = s.newState) (hpending : t.pendingRestart = s.pendingRestart)
    (htimer : t.checkTimer = s.checkTimer) (hsocket : t.socket = s.socket)
    (hrestarts : t.restarts = s.restarts) : t.Phase sys past := by
  have hkeeps (hs : s.KeepsSocket sys) : t.KeepsSocket sys := by
    unfold KeepsSocket HasSocket
    rw [hrestarts, hsocket]
    exact hs
  cases h with
  | reading hopen hs hn hf hk hcheck =>
    refine .reading hopen (hstate.trans hs) (hnew.trans hn) hf (hkeeps hk) ?_
    rw [hpending, htimer]
    exact hcheck
  | restarting hopen hs hn hp ht =>
    refine .restarting hopen ?_ (hnew.trans hn) (hpending.trans hp) (htimer.trans ht)
    rw [hstate]
    exact hs
  | givingUp hopen hs hn hp ht hf =>
    refine .givingUp hopen ?_ (hnew.trans hn) (hpending.trans hp) (htimer.trans ht) hf
    rw [hstate]
    exact hs
  | resting hopen hs hn hp ht hf =>
    exact .resting hopen (hstate.trans hs) (hnew.trans hn) (hpending.trans hp) (htimer.trans ht) hf
  | freed hwhy hs hn =>
    refine .freed hwhy ?_ (hnew.trans hn)
    rw [hstate]
    exact hs

/-- The states of a phase are on the ladder. -/
theorem Phase.ladder (h : s.Phase sys past) : s.state = sndrStateInactive ∨
    s.state = sndrStateReady ∨ s.state = sndrStateReading := by
  cases h with
  | reading _ hstate => exact .inr (.inr hstate)
  | restarting _ hstate => exact .inr hstate.symm
  | givingUp _ hstate => exact .inr hstate.symm
  | resting _ hstate => exact .inl hstate
  | freed _ hstate => exact hstate

/-- A sender that is to be shut down has been told to stop, or a failure has come to pass. -/
theorem Phase.why (h : s.Phase sys past) (hnew : s.newState = sndrStateFreed) :
    past.stopped ∨ past.failed := by
  cases h with
  | reading _ _ hn =>
    rw [hnew] at hn
    cases hn
  | restarting _ _ hn =>
    rw [hnew] at hn
    cases hn
  | givingUp _ _ hn =>
    rw [hnew] at hn
    cases hn
  | resting _ _ hn =>
    rw [hnew] at hn
    cases hn
  | freed hwhy => exact hwhy

/-- Why a sender is to be shut down may be known otherwise. -/
theorem Phase.of_freed {later : Past} (h : s.Phase sys past) (hnew : s.newState = sndrStateFreed)
    (hwhy : past.stopped ∨ past.failed → later.stopped ∨ later.failed) : s.Phase sys later :=
  .freed (hwhy (h.why hnew)) h.ladder hnew

/-- A sender that is to be shut down stays one without its socket. -/
theorem Phase.shutdown (h : s.Phase sys past) (hnew : s.newState = sndrStateFreed) :
    s.onEventProcShutdown.Phase sys past := .freed (h.why hnew) h.ladder hnew

/-! ### The ladder -/

/-- What a restart leaves of the count of restarts that wait: an availability check that has
been scheduled keeps it. -/
theorem restart_counts (sys : System) (hle : s.state ≤ s.newState) (htimer : s.checkTimer = false) :
    (s.restart sys (exitCheckFuel sys 1)).reopened.checkTimer = true ∧
        (s.restart sys (exitCheckFuel sys 1)).reopened.pendingRestart = s.pendingRestart ∧
        s.checkAvailable = true ∧ (sys.setup s.restarts).Succeeds ∧
          (sys.setup s.restarts).schedule = bcrSuccess ∨
      (s.restart sys (exitCheckFuel sys 1)).reopened.checkTimer = false ∧
        (s.restart sys (exitCheckFuel sys 1)).reopened.pendingRestart = s.pendingRestart - 1 := by
  have hbegun := underway_initSocket sys s
  obtain ⟨socket, hsocket⟩ := initSocket_eq { s with restarts := s.restarts + 1 }
    (sys.setup s.restarts)
  have hover {u : Sender} (hu : Underway sys s u) (result : BCRESULT) :
      (u.endRestart result).reopened.checkTimer = false ∧
        (u.endRestart result).reopened.pendingRestart = s.pendingRestart - 1 := by
    refine ⟨hu.checkTimer.trans htimer, ?_⟩
    rw [← hu.pendingRestart]
    rfl
  unfold restart restarted
  split
  · rename_i hchecks
    obtain ⟨pending, started, hrecv⟩ := recvChunkWith_of_le sys 0
      (s := { ({ s with restarts := s.restarts + 1 }.initSocket (sys.setup s.restarts)).2 with
        recvDataCount := 0 }.note (.calls .onCheckAvailable)) (by rw [hsocket]; exact hle)
    have hchecked := hbegun.check pending started hrecv
    unfold checkScheduled
    split
    · rename_i hschedule
      have hasks : s.checkAvailable = true := by
        have hkept := hchecks.2
        rw [hsocket] at hkept
        exact hkept
      exact .inl ⟨rfl, hchecked.pendingRestart, hasks, succeeds_of_initSocket hchecks.1, hschedule⟩
    · exact .inr (hover hchecked _)
  · exact .inr (hover hbegun _)

/-- A sender that the ladder lets go on is not to come down. -/
theorem le_of_exitCheck (hgo : (s.exitCheck sys).1 = false) :
    (s.exitCheck sys).2.state ≤ (s.exitCheck sys).2.newState := by
  cases hex : s.exitCheck sys with
  | mk leave t =>
    have hladder := ladder_exitCheck sys s
    rw [hex] at hladder hgo
    cases hladder with
    | goesOn hle => exact hle
    | pending => cases hgo
    | controlled => cases hgo
    | restarts _ _ hrestarted =>
      change t.state ≤ t.newState
      rw [hrestarted.state, hrestarted.newState]
      decide
    | rests hnew => exact Nat.le_of_eq hnew.symm
    | shutsDown => cases hgo
    | isDown => cases hgo

/-- A sender on the ladder waits behind it. -/
theorem waiting_exitCheck (hstate : s.state = sndrStateInactive ∨ s.state = sndrStateReady ∨
    s.state = sndrStateReading) : (s.exitCheck sys).2.Waiting := by
  unfold Sender.exitCheck
  by_cases hle : s.state ≤ s.newState
  · rw [exitCheckFuel_of_le hle]
    intro hlt
    have hlt' : s.newState < s.state := hlt
    omega
  · rw [exitCheckFuel, if_neg hle]
    by_cases hhigh : s.state = sndrStateReading ∨ s.state = sndrStateReady
    · rw [leaveReading_eq hhigh, if_pos rfl, comeDown]
      split
      · rename_i hpending
        exact fun _ => .inr (or_assoc.mp (.inl hpending))
      · split
        · rename_i hctrls
          exact fun _ => .inr (.inr (.inr hctrls))
        · unfold bottom
          split
          · rename_i hnew
            split
            · intro hlt
              have hhigher : sndrStateMax < sndrStateReading := hlt
              exact absurd hhigher (by decide)
            · intro hlt
              have hlow : s.newState < sndrStateInactive := hlt
              have hsame : s.newState = sndrStateInactive := hnew
              omega
          · exact fun _ => .inl rfl
    · have hfoot : s.state = sndrStateInactive := by
        rcases hstate with hs | hs | hs
        · exact hs
        · exact absurd (.inr hs) hhigh
        · exact absurd (.inl hs) hhigh
      have hsame : s.leaveReading = s := if_neg fun h => hhigh (.inl h)
      rw [hsame, if_neg fun h => hhigh (.inr h)]
      have hdown : s.shutDown = { s with checkTimer := false, detached := true } := if_pos hfoot
      change s.shutDown.Waiting
      rw [hdown]
      exact fun _ => .inl rfl

/-- What the ladder leaves of the count of restarts when it restarts a sender. -/
theorem counts_exitCheck (hstate : s.state = sndrStateReading ∨ s.state = sndrStateReady)
    (hnew : s.newState = sndrStateInactive) (hpending : 0 < s.pendingRestart)
    (hgo : (s.exitCheck sys).1 = false) :
    (s.exitCheck sys).2.checkTimer = true ∧
        (s.exitCheck sys).2.pendingRestart = s.pendingRestart ∧
        s.checkAvailable = true ∧ (sys.setup s.restarts).Succeeds ∧
          (sys.setup s.restarts).schedule = bcrSuccess ∨
      (s.exitCheck sys).2.checkTimer = false ∧
        (s.exitCheck sys).2.pendingRestart = s.pendingRestart - 1 := by
  have hlower : ¬ s.state ≤ s.newState := by
    rw [hnew]
    rcases hstate with hs | hs <;> rw [hs] <;> decide
  unfold Sender.exitCheck at hgo ⊢
  rw [exitCheckFuel, if_neg hlower, leaveReading_eq hstate, if_pos rfl, comeDown] at hgo ⊢
  split at hgo
  · cases hgo
  · rename_i hnone
    rw [if_neg hnone]
    split at hgo
    · cases hgo
    · rename_i hfree
      rw [if_neg hfree]
      unfold bottom
      rw [if_pos hnew, if_pos hpending]
      exact restart_counts (s := { s with
        state := sndrStateInactive, socket := none, checkTimer := false }) sys
        (Nat.le_of_eq hnew.symm) rfl

/-- The ladder takes a phase to a phase. -/
theorem Phase.exitCheck (h : s.Phase sys past) :
    (s.exitCheck sys).2.Phase sys (past.after (s.restarts < (s.exitCheck sys).2.restarts)) := by
  cases hex : s.exitCheck sys with
  | mk leave t =>
    have hladder := ladder_exitCheck sys s
    rw [hex] at hladder
    -- a phase that is to come down, or is down already, in another state of the ladder
    have hcomes (u : Sender) (hlt : s.newState < s.state)
        (hhigh : s.state = sndrStateReading ∨ s.state = sndrStateReady)
        (hstate : u.state = sndrStateReady) (hnew : u.newState = s.newState)
        (hpending : u.pendingRestart = s.pendingRestart) (htimer : u.checkTimer = s.checkTimer)
        (restarted : Prop) : u.Phase sys (past.after restarted) := by
      cases h with
      | reading _ hs hn =>
        rw [hs, hn] at hlt
        exact absurd hlt (by decide)
      | restarting hopen _ hn hp ht =>
        exact .restarting hopen (.inr hstate) (hnew.trans hn) (hpending.trans hp) (htimer.trans ht)
      | givingUp hopen _ hn hp ht hf =>
        exact .givingUp hopen (.inr hstate) (hnew.trans hn) (hpending.trans hp) (htimer.trans ht)
          (.inl hf)
      | resting _ hs hn =>
        rw [hs, hn] at hlt
        exact absurd hlt (by decide)
      | freed hwhy _ hn => exact .freed hwhy (.inr (.inl hstate)) (hnew.trans hn)
    cases hladder with
    | goesOn => exact h.after _
    | pending hlt hhigh =>
      exact hcomes { s with state := sndrStateReady } hlt hhigh rfl rfl rfl rfl _
    | controlled hlt hhigh =>
      exact hcomes { s with state := sndrStateReady, socket := none } hlt hhigh rfl rfl rfl rfl _
    | restarts hnew hpending hrestarted =>
      have hmore : t.restarts = s.restarts + 1 := hrestarted.restarts
      cases h with
      | reading _ _ hn =>
        rw [hnew] at hn
        cases hn
      | restarting hopen hstate _ hp =>
        have hgo : (s.exitCheck sys).1 = false := by rw [hex]
        have hcounts := counts_exitCheck hstate hnew hpending hgo
        rw [hex] at hcounts
        refine .reading hopen hrestarted.state hrestarted.newState (.inr ?_) ?_ ?_
        · change s.restarts < t.restarts
          omega
        · intro _ hsetup
          change (sys.setup (t.restarts - 1)).Succeeds at hsetup
          rw [hmore] at hsetup
          exact hrestarted.socket hsetup
        · rcases hcounts with ⟨htimer, hkept, -⟩ | ⟨htimer, hless⟩
          · exact .inr ⟨hkept.trans hp, htimer⟩
          · rw [hp] at hless
            exact .inl ⟨hless, htimer⟩
      | givingUp _ _ _ hp =>
        rw [hp] at hpending
        cases hpending
      | resting _ _ _ hp =>
        rw [hp] at hpending
        cases hpending
      | freed _ _ hn =>
        rw [hnew] at hn
        cases hn
    | rests hnew _ hpending =>
      cases h with
      | reading _ _ hn =>
        rw [hnew] at hn
        cases hn
      | restarting _ _ _ hp =>
        rw [hpending] at hp
        cases hp
      | givingUp hopen _ hn hp ht hf => exact .resting hopen rfl hn hp ht (.inl hf)
      | resting hopen _ hn hp ht hf => exact .resting hopen rfl hn hp ht (.inl hf)
      | freed _ _ hn =>
        rw [hnew] at hn
        cases hn
    | shutsDown hlt hnew =>
      cases h with
      | reading _ hs hn =>
        rw [hs, hn] at hlt
        exact absurd hlt (by decide)
      | restarting _ _ hn => exact absurd hn hnew
      | givingUp _ _ hn => exact absurd hn hnew
      | resting _ _ hn => exact absurd hn hnew
      | freed hwhy _ hn => exact .freed hwhy (.inl rfl) hn
    | isDown hlt hhigh =>
      cases h with
      | reading _ hs => exact absurd (.inl hs) hhigh
      | restarting _ hs => exact absurd hs hhigh
      | givingUp _ hs => exact absurd hs hhigh
      | resting _ hs hn =>
        rw [hs, hn] at hlt
        exact absurd hlt (by decide)
      | freed hwhy hs hn =>
        change s.shutDown.Phase sys _
        unfold shutDown
        split
        · exact .freed hwhy hs hn
        · exact .freed hwhy hs hn

/-- The ladder lets only a sender go on that is not to be shut down. -/
theorem Phase.goes (h : s.Phase sys past) (hle : s.state ≤ s.newState) :
    s.newState ≠ sndrStateFreed := by
  intro hfreed
  rw [hfreed] at hle
  rcases h.ladder with hs | hs | hs <;> rw [hs] at hle <;> exact absurd hle (by decide)

/-- The ladder does not touch the controls of the queue. -/
theorem ctrls_exitCheck (sys : System) (s : Sender) : (s.exitCheck sys).2.ctrls = s.ctrls := by
  have hrestart {u : Sender} (hle : u.state ≤ u.newState) :
      (u.restart sys (exitCheckFuel sys 1)).ctrls = u.ctrls := by
    obtain ⟨socket, hsocket⟩ := initSocket_eq { u with restarts := u.restarts + 1 }
      (sys.setup u.restarts)
    unfold restart restarted
    split
    · obtain ⟨pending, started, hrecv⟩ := recvChunkWith_of_le sys 0
        (s := { ({ u with restarts := u.restarts + 1 }.initSocket (sys.setup u.restarts)).2 with
          recvDataCount := 0 }.note (.calls .onCheckAvailable)) (by rw [hsocket]; exact hle)
      rw [hrecv, hsocket]
      unfold checkScheduled
      split <;> rfl
    · rw [hsocket]
      rfl
  have hdown (u : Sender) : u.shutDown.ctrls = u.ctrls := by
    unfold shutDown
    split <;> rfl
  unfold Sender.exitCheck
  by_cases hle : s.state ≤ s.newState
  · rw [exitCheckFuel_of_le hle]
  · rw [exitCheckFuel, if_neg hle]
    have hleft : s.leaveReading.ctrls = s.ctrls := by
      unfold leaveReading
      split <;> rfl
    split
    · unfold comeDown
      split
      · exact hleft
      · split
        · exact hleft
        · unfold bottom
          split
          · rename_i hnew
            split
            · exact (hrestart (Nat.le_of_eq hnew.symm)).trans hleft
            · exact hleft
          · exact (hdown _).trans hleft
    · exact (hdown _).trans hleft

/-- A sender that is to be shut down is not let go on. -/
theorem Phase.leaves (h : s.Phase sys past) (hnew : s.newState = sndrStateFreed) :
    (s.exitCheck sys).1 = true := by
  have hlow : ¬ s.state ≤ s.newState := by
    rw [hnew]
    rcases h.ladder with hs | hs | hs <;> rw [hs] <;> decide
  cases hex : s.exitCheck sys with
  | mk leave t =>
    have hladder := ladder_exitCheck sys s
    rw [hex] at hladder
    cases hladder with
    | goesOn hle => exact absurd hle hlow
    | pending => rfl
    | controlled => rfl
    | restarts hinactive =>
      rw [hnew] at hinactive
      cases hinactive
    | rests hinactive =>
      rw [hnew] at hinactive
      cases hinactive
    | shutsDown => rfl
    | isDown => rfl

/-- A sender that is to be shut down stays one on the ladder. -/
theorem freed_exitCheck (hnew : s.newState = sndrStateFreed) :
    (s.exitCheck sys).2.newState = sndrStateFreed := by
  cases hex : s.exitCheck sys with
  | mk leave t =>
    have hladder := ladder_exitCheck sys s
    rw [hex] at hladder
    cases hladder with
    | goesOn => exact hnew
    | pending => exact hnew
    | controlled => exact hnew
    | restarts hinactive =>
      rw [hnew] at hinactive
      cases hinactive
    | rests => exact hnew
    | shutsDown => exact hnew
    | isDown =>
      change s.shutDown.newState = sndrStateFreed
      unfold shutDown
      split <;> exact hnew

/-! ### The operations -/

/-- What the operations of a sender keep: restarts are not taken back, the controls of the queue
stay, and a phase becomes a phase. -/
structure Kept (sys : System) (past : Past) (s t : Sender) : Prop where
  /-- Restarts are not taken back. -/
  restarts_le : s.restarts ≤ t.restarts
  /-- The controls of the queue stay. -/
  ctrls_eq : t.ctrls = s.ctrls
  /-- A sender that is to be shut down stays one. -/
  freed_kept : s.newState = sndrStateFreed → t.newState = sndrStateFreed
  /-- It is in a phase. -/
  phase : t.Phase sys (past.after (s.restarts < t.restarts))

/-- An operation keeps what is to be kept in every phase. -/
def Keeps (sys : System) (f : Sender → Sender) : Prop :=
  ∀ past s, s.Phase sys past → Kept sys past s (f s)

/-- What changes none of the fields of a phase keeps it. -/
theorem Phase.kept (h : s.Phase sys past) (hstate : t.state = s.state)
    (hnew : t.newState = s.newState) (hpending : t.pendingRestart = s.pendingRestart)
    (htimer : t.checkTimer = s.checkTimer) (hsocket : t.socket = s.socket)
    (hrestarts : t.restarts = s.restarts) (hctrls : t.ctrls = s.ctrls) : Kept sys past s t :=
  ⟨Nat.le_of_eq hrestarts.symm, hctrls, hnew.trans,
    (h.of_eq hstate hnew hpending htimer hsocket hrestarts).after _⟩

/-- One operation behind the other. -/
theorem Kept.trans {u : Sender} (h : Kept sys past s t)
    (h' : Kept sys (past.after (s.restarts < t.restarts)) t u) : Kept sys past s u where
  restarts_le := Nat.le_trans h.restarts_le h'.restarts_le
  ctrls_eq := h'.ctrls_eq.trans h.ctrls_eq
  freed_kept := fun hfreed => h'.freed_kept (h.freed_kept hfreed)
  phase := by
    refine h'.phase.mono ?_ id Iff.rfl
    rintro ((hfresh | hmore) | hmore)
    · exact .inl hfresh
    · exact .inr (Nat.lt_of_lt_of_le hmore h'.restarts_le)
    · exact .inr (Nat.lt_of_le_of_lt h.restarts_le hmore)

/-- One operation behind the other keeps the phase. -/
theorem Keeps.comp {f g : Sender → Sender} (hg : Keeps sys g) (hf : Keeps sys f) :
    Keeps sys fun s => g (f s) :=
  fun past s h => (hf past s h).trans (hg _ (f s) (hf past s h).phase)

/-- The ladder keeps the phases. -/
theorem keeps_exitCheck (sys : System) : Keeps sys fun s => (s.exitCheck sys).2 :=
  fun _ s h => ⟨(grows_exitCheck sys s).restarts, ctrls_exitCheck sys s, freed_exitCheck,
    h.exitCheck⟩

/-- What follows a test of `_ExitCheck` keeps the phases with it. -/
theorem keeps_unlessExit {rest : Sender → Sender} (hrest : Keeps sys rest) :
    Keeps sys fun s => s.unlessExit sys rest := by
  intro past s h
  have hboth := hrest.comp (keeps_exitCheck sys) past s h
  have hexit := keeps_exitCheck sys past s h
  dsimp only at hboth hexit ⊢
  unfold Sender.unlessExit
  split
  · exact hexit
  · exact hboth

/-- A note keeps the phases. -/
theorem keeps_note (sys : System) (n : Sender → Note) : Keeps sys fun s => s.note (n s) :=
  fun _ _ h => h.kept rfl rfl rfl rfl rfl rfl rfl

/-- What uses the socket keeps the phases with its test. -/
theorem keeps_pass {use : Sender → Sender} (huse : Keeps sys use) (user : User) :
    Keeps sys fun s => s.pass sys user use :=
  keeps_unlessExit (huse.comp (keeps_note sys fun s => .passes user s.socket))

/-- A receive keeps the phases. -/
theorem keeps_udpRecvChunk (sys : System) : Keeps sys fun s => s.udpRecvChunk sys := by
  have hrecv : Keeps sys fun s => s.recvV2 sys := by
    intro past s h
    obtain ⟨pending, started, hrecv⟩ := recvV2_eq sys s
    dsimp only
    rw [hrecv]
    exact h.kept rfl rfl rfl rfl rfl rfl rfl
  have hmore : Keeps sys fun s => s.recvMore sys (Sender.exitCheck sys) := by
    intro past s h
    have hboth := (keeps_exitCheck sys).comp hrecv past s h
    dsimp only at hboth ⊢
    unfold recvMore
    split
    · exact h.kept rfl rfl rfl rfl rfl rfl rfl
    · exact hboth
  exact keeps_pass hmore .recvChunk

/-- A send keeps the phases. -/
theorem keeps_udpSend (sys : System) (result : BCRESULT) :
    Keeps sys fun s => s.udpSend result := by
  intro past s h
  obtain ⟨pending, hsend⟩ := udpSend_eq s result
  dsimp only
  rw [hsend]
  exact h.kept rfl rfl rfl rfl rfl rfl rfl

/-- A call of the handler without the lock keeps the phases. -/
theorem keeps_callOutside (sys : System) (callback : Callback) :
    Keeps sys fun s => s.callOutside callback :=
  fun _ _ h => h.kept rfl rfl rfl rfl rfl rfl rfl

/-- The data of a receive are told. -/
theorem keeps_received (sys : System) (size : ℕ) : Keeps sys fun s => s.received sys size := by
  have htold : Keeps sys fun s =>
      { s with recvDataCount := s.recvDataCount + size }.callOutside .onRecvData :=
    fun _ _ h => h.kept rfl rfl rfl rfl rfl rfl rfl
  exact htold.comp (keeps_udpRecvChunk sys)

/-! ### Failures -/

/-- The result of an operation that frees its sender. -/
def Fatal (s : Sender) (result : BCRESULT) : Prop :=
  result ≠ bcrSuccess ∧ s.pendingRestart = 0 ∧ ¬ IsTransient result

instance (s : Sender) (result : BCRESULT) : Decidable (s.Fatal result) :=
  inferInstanceAs (Decidable (_ ∧ _))

/-- A failure has come to pass. -/
def Past.fails (past : Past) (failure : Prop) : Past :=
  { past with failed := past.failed ∨ failure }

/-- The result of an operation leaves a phase. -/
theorem Phase.onResult (h : s.Phase sys past) (result : BCRESULT) :
    Kept sys (past.fails (s.Fatal result)) s (s.onResult result) := by
  have hmore : s.Phase sys (past.fails (s.Fatal result)) := h.mono id Or.inl Iff.rfl
  unfold Sender.onResult
  split
  · rename_i hfatal
    exact ⟨Nat.le_refl _, rfl, fun _ => rfl, .freed (.inr (.inr hfatal)) h.ladder rfl⟩
  · exact hmore.kept rfl rfl rfl rfl rfl rfl rfl

/-- What an exception asks for leaves a phase. -/
theorem Phase.onThrown (h : s.Phase sys past) (threw : Bool) :
    Kept sys (past.fails (threw = true)) s (s.onThrown threw) := by
  have hmore : s.Phase sys (past.fails (threw = true)) := h.mono id Or.inl Iff.rfl
  cases threw with
  | true => exact ⟨Nat.le_refl _, rfl, fun _ => rfl, .freed (.inr (.inr rfl)) h.ladder rfl⟩
  | false => exact hmore.kept rfl rfl rfl rfl rfl rfl rfl

/-- A receive is done. -/
theorem Phase.recvDone (h : s.Phase sys past) (result : BCRESULT) (size : ℕ) :
    Kept sys (past.fails (s.Fatal result)) s (s.recvDone sys result size) := by
  have hless : { s with pendingRecv := s.pendingRecv - 1 }.Phase sys past :=
    h.of_eq rfl rfl rfl rfl rfl rfl
  have hbegun := hless.onResult result
  have hrest := keeps_unlessExit (keeps_received sys size) _ _ hbegun.phase
  have hall := hbegun.trans hrest
  exact ⟨hall.restarts_le, hall.ctrls_eq, hall.freed_kept, hall.phase⟩

/-- A send is done. -/
theorem Phase.sendDone (h : s.Phase sys past) (result : BCRESULT) :
    Kept sys (past.fails (s.Fatal result)) s (s.sendDone sys result) := by
  have hless : { s with pendingSend := s.pendingSend - 1 }.Phase sys past :=
    h.of_eq rfl rfl rfl rfl rfl rfl
  have hbegun := hless.onResult result
  have hrest := keeps_unlessExit (keeps_callOutside sys .onSendData) _ _ hbegun.phase
  have hall := hbegun.trans hrest
  exact ⟨hall.restarts_le, hall.ctrls_eq, hall.freed_kept, hall.phase⟩

/-- The handler returns or throws. -/
theorem Phase.returned (h : s.Phase sys past) (threw : Bool) :
    Kept sys (past.fails (threw = true)) s (s.returned sys threw) := by
  have hinside : { s with outside := false }.Phase sys past := h.of_eq rfl rfl rfl rfl rfl rfl
  have hthrown := hinside.onThrown threw
  have hall := hthrown.trans (keeps_exitCheck sys _ _ hthrown.phase)
  exact ⟨hall.restarts_le, hall.ctrls_eq, hall.freed_kept, hall.phase⟩

/-- What the availability check finds leaves a phase. -/
theorem Phase.checked (h : s.Phase sys past) (htimer : s.checkTimer = true)
    (hle : s.state ≤ s.newState) : Kept sys past s { s with checkTimer := false }.checked := by
  have hgoes := h.goes hle
  have hreads : ¬ past.stopped ∧ s.state = sndrStateReading ∧ s.newState = sndrStateMax ∧
      past.fresh ∧ s.KeepsSocket sys ∧ s.pendingRestart = 1 := by
    cases h with
    | reading hopen hstate hnew hfresh hsocket hcheck =>
      rcases hcheck with ⟨-, hoff⟩ | ⟨hone, -⟩
      · rw [htimer] at hoff
        cases hoff
      · exact ⟨hopen, hstate, hnew, hfresh, hsocket, hone⟩
    | restarting _ _ _ _ hoff =>
      rw [htimer] at hoff
      cases hoff
    | givingUp _ _ _ _ hoff =>
      rw [htimer] at hoff
      cases hoff
    | resting _ _ _ _ hoff =>
      rw [htimer] at hoff
      cases hoff
    | freed _ hstate hnew => exact absurd hnew hgoes
  obtain ⟨hopen, hstate, hnew, hfresh, hsocket, hone⟩ := hreads
  have hzero : s.pendingRestart - 1 = 0 := by omega
  unfold Sender.checked
  split
  · exact ⟨Nat.le_refl _, rfl, fun hfreed => absurd hfreed hgoes,
      .reading hopen hstate hnew (.inl hfresh) hsocket (.inl ⟨hzero, rfl⟩)⟩
  · exact ⟨Nat.le_refl _, rfl, fun hfreed => absurd hfreed hgoes,
      .givingUp hopen (.inl hstate) rfl hzero rfl (.inl hfresh)⟩

/-- The task of the availability check. -/
theorem Phase.onCheckTimer (h : s.Phase sys past) (htimer : s.checkTimer = true) :
    Kept sys past s (s.onCheckTimer sys) := by
  by_cases hle : s.state ≤ s.newState
  · have hstays : s.exitCheck sys = (false, s) := exitCheckFuel_of_le hle
    unfold Sender.onCheckTimer unlessExit
    rw [hstays, if_neg (by simp)]
    have hchecked := h.checked htimer hle
    exact hchecked.trans (keeps_exitCheck sys _ _ hchecked.phase)
  · -- the check belongs to no restart on its way, so that the sender is to be shut down
    have hfreed : s.newState = sndrStateFreed := by
      cases h with
      | reading _ hstate hnew =>
        rw [hstate, hnew] at hle
        exact absurd (by decide) hle
      | restarting _ _ _ _ hoff =>
        rw [htimer] at hoff
        cases hoff
      | givingUp _ _ _ _ hoff =>
        rw [htimer] at hoff
        cases hoff
      | resting _ _ _ _ hoff =>
        rw [htimer] at hoff
        cases hoff
      | freed _ _ hnew => exact hnew
    unfold Sender.onCheckTimer unlessExit
    rw [if_pos (h.leaves hfreed)]
    exact keeps_exitCheck sys past s h

/-! ### What a sender waits for -/

/-- What follows a test of `_ExitCheck` leaves a sender that waits, if it does so for one that is
not to come down. -/
theorem Phase.waiting_unlessExit {rest : Sender → Sender} (h : s.Phase sys past)
    (hrest : ∀ past t, Phase sys past t → t.state ≤ t.newState → (rest t).Waiting) :
    (s.unlessExit sys rest).Waiting := by
  unfold Sender.unlessExit
  split
  · exact waiting_exitCheck h.ladder
  · rename_i hleave
    exact hrest _ _ h.exitCheck (le_of_exitCheck (by simpa using hleave))

/-- What is not to come down waits for nothing. -/
theorem waiting_of_le (hle : s.state ≤ s.newState) : s.Waiting := by
  intro hlt
  omega

/-- A receive lets a sender that is not to come down be so. -/
theorem le_udpRecvChunk (hle : s.state ≤ s.newState) :
    (s.udpRecvChunk sys).state ≤ (s.udpRecvChunk sys).newState := by
  obtain ⟨pending, started, hrecv⟩ := recvChunkWith_of_le sys 1 hle
  have hsame : s.udpRecvChunk sys =
      { s.note (.passes .recvChunk s.socket) with pendingRecv := pending, receives := started } :=
    hrecv
  rw [hsame]
  exact hle

/-- A send lets a sender that is not to come down be so. -/
theorem waiting_udpSend (hle : s.state ≤ s.newState) (result : BCRESULT) :
    (s.udpSend result).Waiting := by
  obtain ⟨pending, hsend⟩ := udpSend_eq s result
  rw [hsend]
  exact waiting_of_le hle

/-- The steps that are no events of the queue and leave its controls alone. -/
def IsOther : Step → Prop
  | .event _ => False
  | .ctrl _ => False
  | _ => True

/-- The step frees a sender because of a failure. -/
def Fails (s : Sender) : Step → Prop
  | .recvDone result _ => s.outside = false ∧ s.pendingRecv ≠ 0 ∧ s.Fatal result
  | .sendDone result => s.outside = false ∧ s.pendingSend ≠ 0 ∧ s.Fatal result
  | .returned threw => s.outside = true ∧ threw = true
  | _ => False

instance (s : Sender) (e : Step) : Decidable (s.Fails e) := by
  cases e <;> unfold Fails <;> infer_instance

/-- The availability check changes no state by itself. -/
theorem state_checked (s : Sender) : ({ s with checkTimer := false }.checked).state = s.state := by
  unfold checked
  split <;> rfl

/-- A step that is no event of the queue keeps a phase, and leaves a sender that waits. -/
theorem Phase.other (h : s.Phase sys past) (hsteady : s.Steady False) {e : Step} (he : IsOther e) :
    Kept sys (past.fails (s.Fails e)) s (s.step sys e) ∧
      (s.Waiting → (s.step sys e).Waiting) := by
  have hmore : s.Phase sys (past.fails (s.Fails e)) := h.mono id Or.inl Iff.rfl
  have hskip : Kept sys (past.fails (s.Fails e)) s s := hmore.kept rfl rfl rfl rfl rfl rfl rfl
  cases e with
  | send result =>
    refine ⟨keeps_pass (keeps_udpSend sys result) .send _ s hmore, fun _ => ?_⟩
    exact h.waiting_unlessExit fun _ t _ hle =>
      waiting_udpSend (s := t.note (.passes .send t.socket)) hle result
  | sendMMsg iovecLen result =>
    have huse : Keeps sys fun s =>
        if iovecLen > bcSocketMaxScatterGather then s else s.udpSend result := by
      intro past s h
      have hsend := keeps_udpSend sys result past s h
      dsimp only at hsend ⊢
      split
      · exact h.kept rfl rfl rfl rfl rfl rfl rfl
      · exact hsend
    refine ⟨keeps_pass huse .sendMMsg _ s hmore, fun _ => ?_⟩
    refine h.waiting_unlessExit fun _ t _ hle => ?_
    dsimp only
    split
    · exact waiting_of_le (s := t.note (.passes .sendMMsg t.socket)) hle
    · exact waiting_udpSend (s := t.note (.passes .sendMMsg t.socket)) hle result
  | connect =>
    have huse : Keeps sys id := fun past s h => h.kept rfl rfl rfl rfl rfl rfl rfl
    refine ⟨keeps_pass huse .connect _ s hmore, fun _ => ?_⟩
    exact h.waiting_unlessExit fun _ t _ hle =>
      waiting_of_le (s := t.note (.passes .connect t.socket)) hle
  | recvDone result size =>
    rw [Sender.step]
    split
    · exact ⟨hskip, id⟩
    · rename_i hdo
      obtain ⟨hinside, hpending⟩ := not_or.mp hdo
      have hdone := h.recvDone result size
      have hfails : s.Fatal result → s.Fails (.recvDone result size) := fun hfatal =>
        ⟨by simpa using hinside, hpending, hfatal⟩
      refine ⟨⟨hdone.restarts_le, hdone.ctrls_eq, hdone.freed_kept,
        hdone.phase.mono id (Or.imp_right hfails) Iff.rfl⟩, fun _ => ?_⟩
      have hless : { s with pendingRecv := s.pendingRecv - 1 }.Phase sys past :=
        h.of_eq rfl rfl rfl rfl rfl rfl
      refine (hless.onResult result).phase.waiting_unlessExit fun _ t _ hle => ?_
      exact waiting_of_le (s := t.received sys size) (le_udpRecvChunk hle)
  | sendDone result =>
    rw [Sender.step]
    split
    · exact ⟨hskip, id⟩
    · rename_i hdo
      obtain ⟨hinside, hpending⟩ := not_or.mp hdo
      have hdone := h.sendDone result
      have hfails : s.Fatal result → s.Fails (.sendDone result) := fun hfatal =>
        ⟨by simpa using hinside, hpending, hfatal⟩
      refine ⟨⟨hdone.restarts_le, hdone.ctrls_eq, hdone.freed_kept,
        hdone.phase.mono id (Or.imp_right hfails) Iff.rfl⟩, fun _ => ?_⟩
      have hless : { s with pendingSend := s.pendingSend - 1 }.Phase sys past :=
        h.of_eq rfl rfl rfl rfl rfl rfl
      refine (hless.onResult result).phase.waiting_unlessExit fun _ t _ hle => ?_
      exact waiting_of_le (s := t.callOutside .onSendData) hle
  | returned threw =>
    rw [Sender.step]
    split
    · rename_i hdo
      have hdone := h.returned threw
      have hfails : threw = true → s.Fails (.returned threw) := fun hthrew => ⟨hdo, hthrew⟩
      refine ⟨⟨hdone.restarts_le, hdone.ctrls_eq, hdone.freed_kept,
        hdone.phase.mono id (Or.imp_right hfails) Iff.rfl⟩, fun _ => ?_⟩
      have hinside : { s with outside := false }.Phase sys past := h.of_eq rfl rfl rfl rfl rfl rfl
      exact waiting_exitCheck (hinside.onThrown threw).phase.ladder
    · exact ⟨hskip, id⟩
  | connectDone =>
    rw [Sender.step]
    split
    · exact ⟨hskip, id⟩
    · exact ⟨keeps_exitCheck sys _ s hmore, fun _ => waiting_exitCheck h.ladder⟩
  | event e => exact he.elim
  | checkTimer =>
    rw [Sender.step]
    split
    · exact ⟨hskip, id⟩
    · rename_i hdo
      have htimer : s.checkTimer = true := not_not.mp (not_or.mp hdo).2
      refine ⟨hmore.onCheckTimer htimer, fun _ => ?_⟩
      refine h.waiting_unlessExit fun _ t ht _ => waiting_exitCheck ?_
      rw [state_checked]
      exact ht.ladder
  | ctrl n => exact he.elim
  | shutdown =>
    rw [Sender.step]
    split
    · exact ⟨hskip, id⟩
    · rename_i hdo
      have hdown : s.detached = true := not_not.mp (not_or.mp (not_or.mp hdo).2).1
      refine ⟨⟨Nat.le_refl _, rfl, id, ?_⟩, fun _ _ => .inl hdown⟩
      exact hmore.shutdown (hsteady.down hdown).2 |>.after _

/-! ### Events -/

/-- The sender comes down for a restart or because of an availability check, and waits for
operations to be over: the test in front of every event tells it to leave. -/
def Busy (s : Sender) : Prop :=
  s.newState = sndrStateInactive ∧ s.newState < s.state ∧ (s.pendingRecv ≠ 0 ∨ s.pendingSend ≠ 0)

instance (s : Sender) : Decidable s.Busy := inferInstanceAs (Decidable (_ ∧ _))

/-- The sender takes a restart up: it reads, and no other restart is on its way; or it has come
down, and the restart that is on its way is over at once. -/
def TakesUp (sys : System) (s : Sender) : Prop :=
  s.newState = sndrStateMax ∧ s.pendingRestart = 0 ∨
    s.newState = sndrStateInactive ∧ s.newState < s.state ∧ s.pendingRestart = 1 ∧
      ¬ (s.checkAvailable = true ∧ (sys.setup s.restarts).Succeeds ∧
        (sys.setup s.restarts).schedule = bcrSuccess)

instance (sys : System) (s : Sender) : Decidable (s.TakesUp sys) :=
  inferInstanceAs (Decidable (_ ∨ _))

/-- A sender that is to come down is high on the ladder. -/
theorem Phase.high (h : s.Phase sys past) (hnew : s.newState = sndrStateInactive)
    (hlt : s.newState < s.state) : s.state = sndrStateReading ∨ s.state = sndrStateReady := by
  rcases h.ladder with hs | hs | hs
  · rw [hs, hnew] at hlt
    exact absurd hlt (by decide)
  · exact .inr hs
  · exact .inl hs

/-- A sender that takes a restart up reads behind the test, with no restart on its way. -/
theorem Phase.takesUp (h : s.Phase sys past) (htakes : s.TakesUp sys)
    (hgo : (s.exitCheck sys).1 = false) :
    (s.exitCheck sys).2.newState = sndrStateMax ∧ (s.exitCheck sys).2.pendingRestart = 0 := by
  rcases htakes with ⟨hnew, hzero⟩ | ⟨hnew, hlt, hone, hnone⟩
  · have hle : s.state ≤ s.newState := by
      rw [hnew]
      rcases h.ladder with hs | hs | hs <;> rw [hs] <;> decide
    have hstays : s.exitCheck sys = (false, s) := exitCheckFuel_of_le hle
    rw [hstays]
    exact ⟨hnew, hzero⟩
  · have hpending : 0 < s.pendingRestart := by omega
    have hcounts := counts_exitCheck (h.high hnew hlt) hnew hpending hgo
    cases hex : s.exitCheck sys with
    | mk leave t =>
      have hladder := ladder_exitCheck sys s
      rw [hex] at hladder hgo hcounts
      cases hladder with
      | goesOn hle => exact absurd hlt (Nat.not_lt.mpr hle)
      | pending => cases hgo
      | controlled => cases hgo
      | restarts _ _ hrestarted =>
        refine ⟨hrestarted.newState, ?_⟩
        rcases hcounts with ⟨-, -, hchecks⟩ | ⟨-, hless⟩
        · exact absurd hchecks hnone
        · rw [hone] at hless
          exact hless
      | rests _ _ hzero =>
        rw [hone] at hzero
        cases hzero
      | shutsDown => cases hgo
      | isDown => cases hgo

/-- A sender that is not busy and not to be shut down lets an event be handled by its queue. -/
theorem Phase.hears (h : s.Phase sys past) (hctrls : s.ctrls = 0) (hidle : ¬ s.Busy)
    (hnew : s.newState ≠ sndrStateFreed) : (s.exitCheck sys).1 = false := by
  by_cases hle : s.state ≤ s.newState
  · have hstays : s.exitCheck sys = (false, s) := exitCheckFuel_of_le hle
    rw [hstays]
  · have hlt : s.newState < s.state := Nat.not_le.mp hle
    have hinactive : s.newState = sndrStateInactive := by
      cases h with
      | reading _ hs hn =>
        rw [hs, hn] at hlt
        exact absurd hlt (by decide)
      | restarting _ _ hn => exact hn
      | givingUp _ _ hn => exact hn
      | resting _ _ hn => exact hn
      | freed _ _ hn => exact absurd hn hnew
    have hnone : ¬ (s.pendingRecv ≠ 0 ∨ s.pendingSend ≠ 0) := fun hpending =>
      hidle ⟨hinactive, hlt, hpending⟩
    have hfree : ¬ 0 < s.ctrls := by omega
    unfold Sender.exitCheck
    rw [exitCheckFuel, if_neg hle, leaveReading_eq (h.high hinactive hlt), if_pos rfl, comeDown,
      if_neg hnone, if_neg hfree, bottom, if_pos hinactive]
    split <;> rfl

/-- The events that are no controls keep the phases. -/
theorem keeps_onEvent (sys : System) {e : Event} (hstop : e ≠ .stopWork)
    (hrestart : ∀ checkAvailable, e ≠ .restartWork checkAvailable) :
    Keeps sys fun s => s.onEvent sys e := by
  have hskip : Keeps sys id := fun _ _ h => h.kept rfl rfl rfl rfl rfl rfl rfl
  cases e with
  | startWork parses =>
    cases parses with
    | true => exact keeps_udpRecvChunk sys
    | false => exact hskip
  | startRecv => exact keeps_udpRecvChunk sys
  | stopWork => exact absurd rfl hstop
  | restartWork checkAvailable => exact absurd rfl (hrestart checkAvailable)
  | other => exact hskip

/-- The sender is told to stop. -/
theorem Phase.stopWork (h : s.Phase sys past) :
    Kept sys { past with stopped := True } s (s.setState sndrStateFreed bcrSuccess) :=
  ⟨Nat.le_refl _, rfl, fun _ => rfl, .freed (.inl trivial) h.ladder rfl⟩

/-- A reading sender is told to restart. -/
theorem Phase.restartWork (h : s.Phase sys past) (hnew : s.newState = sndrStateMax)
    (hpending : s.pendingRestart = 0) (checkAvailable : Bool) (fresh : Prop) :
    Kept sys { past with fresh := fresh } s (s.restartWork checkAvailable) := by
  have heq : s.restartWork checkAvailable = { s with
      newState := sndrStateInactive, closeStatus := bcrSuccess,
      pendingRestart := s.pendingRestart + 1, checkAvailable := checkAvailable,
      recvDataCount := 0 } := by
    unfold Sender.restartWork
    rw [if_pos hpending]
    rfl
  rw [heq]
  refine ⟨Nat.le_refl _, rfl, fun hfreed => ?_, ?_⟩
  · rw [hnew] at hfreed
    cases hfreed
  cases h with
  | reading hopen hstate _ _ _ hcheck =>
    refine .restarting hopen (.inl hstate) rfl (by rw [hpending]) ?_
    rcases hcheck with ⟨-, hoff⟩ | ⟨hone, -⟩
    · exact hoff
    · rw [hpending] at hone
      cases hone
  | restarting _ _ hn =>
    rw [hnew] at hn
    cases hn
  | givingUp _ _ hn =>
    rw [hnew] at hn
    cases hn
  | resting _ _ hn =>
    rw [hnew] at hn
    cases hn
  | freed _ _ hn =>
    rw [hnew] at hn
    cases hn

end Sender

end Udp
