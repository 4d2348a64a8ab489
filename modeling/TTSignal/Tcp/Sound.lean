import TTSignal.Traces
import TTSignal.Tcp.Quiet

/-!
# The bookkeeping of a TCP channel

What a channel counts is what is really pending, its state and flags agree, every state
transition is a legal one, and no handler is called after it has been told that the channel
is closed. Every function of the channel keeps this.
-/

namespace Tcp

open Traces

/-- `OnChannelClosed` is called. -/
def Action.TellsClosed : Action → Prop
  | .callback _ (.onChannelClosed _ _) => True
  | _ => False

/-- A handler is called. -/
def Action.CallsHandler : Action → Prop
  | .callback _ _ => True
  | _ => False

/-- `closed_notified_` becomes true. -/
def Action.Notifies : Action → Prop
  | .notified _ _ => True
  | _ => False

/-- Actions that say nothing about the life of the channel. -/
def Action.Silent : Action → Prop
  | .setState _ _ => False
  | .notified _ _ => False
  | .callback _ _ => False
  | _ => True

/-- Work at whose end `_MaybeFinishClose` is called. -/
def Instr.Rechecks : Instr → Prop
  | .maybeFinishClose => True
  | .leaveSsl => True
  | .adoptFailed => True
  | _ => False

/-- The bookkeeping of a channel is right. -/
structure Sound (s : TcpChannel) : Prop where
  /-- The flag and the state agree about closing. -/
  closing_iff : s.closing = true ↔ s.state = .closing ∨ s.state = .closed
  /-- The flag and the state agree about being closed. -/
  notified_iff : s.closedNotified = true ↔ s.state = .closed
  /-- Nothing is pending in a closed channel. -/
  counters_zero : s.closedNotified = true → s.counters = Counters.zero
  /-- The calls of the TLS layer on the stack are counted. -/
  depth_eq : s.counters.sslDepth = s.stack.count .leaveSsl
  /-- The tasks are counted. -/
  tasks_eq : s.counters.pendingTasks = s.accepted.length + s.tasks.length
  /-- The connects are counted. -/
  connects_eq : s.counters.pendingConnect = s.ops.connects
  /-- The receives are counted. -/
  recvs_eq : s.counters.pendingRecv = s.ops.recvs
  /-- The sends are counted. -/
  sends_eq : s.counters.pendingSend = s.ops.sends
  /-- The queue is detached by a closed channel. -/
  shutdown_notified : s.shutdownPending = true → s.closedNotified = true
  /-- The handler is told when the queue is shut down. -/
  told : (∃ a ∈ s.trace, a.TellsClosed) → s.closedNotified = true ∧ s.shutdownPending = false
  /-- Every transition was legal. -/
  legal : ∀ cur next, .setState cur next ∈ s.trace → isLegalTransition cur next = true
  /-- No handler is called after it has been told that the channel is closed. -/
  told_last : NoneAfter Action.TellsClosed Action.CallsHandler s.trace
  /-- `closed_notified_` became true when nothing was pending. -/
  notified_when : ∀ closing counters, .notified closing counters ∈ s.trace →
    closing = true ∧ counters = Counters.zero ∧ s.closedNotified = true
  /-- `closed_notified_` became true once. -/
  notified_once : NoneAfter Action.Notifies Action.Notifies s.trace
  /-- `closed_notified_` did not become true without being recorded. -/
  notified_recorded : s.closedNotified = true → ∃ a ∈ s.trace, a.Notifies

/-- If the channel can be finished, what is on the stack will do so. -/
def Live (s : TcpChannel) : Prop := s.MayFinish → ∃ i ∈ s.stack, i.Rechecks

variable {X509 : Type*} {p : Platform X509} {s : TcpChannel}

/-- An open channel is not closed. -/
theorem Sound.not_notified (h : Sound s) (hopen : s.closing = false) :
    s.closedNotified = false := by
  rw [← Bool.not_eq_true, h.notified_iff]
  intro hclosed
  rw [h.closing_iff.mpr (Or.inr hclosed)] at hopen
  cases hopen

/-- A channel that has passed a test of `closing_` is open. -/
theorem open_of_not_or {q : Prop} (h : ¬ (s.closing = true ∨ q)) : s.closing = false := by
  rw [← Bool.not_eq_true]
  exact fun hclosing => h (Or.inl hclosing)

/-- A channel in another state than the last two is open. -/
theorem Sound.open_of_state (h : Sound s) (hclosing : s.state ≠ .closing)
    (hclosed : s.state ≠ .closed) : s.closing = false := by
  rw [← Bool.not_eq_true, h.closing_iff]
  rintro (h | h)
  · exact hclosing h
  · exact hclosed h

/-- A ready channel is open. -/
theorem Sound.open_of_ready (h : Sound s) (hready : s.state = .ready) : s.closing = false :=
  h.open_of_state (by simp [hready]) (by simp [hready])

/-- A channel with something pending is not closed. -/
theorem Sound.not_notified_of_pending (h : Sound s) (hpending : s.counters ≠ Counters.zero) :
    s.closedNotified = false := by
  rw [← Bool.not_eq_true]
  exact fun hnotified => hpending (h.counters_zero hnotified)

/-- Recording a silent action. -/
theorem Sound.note (h : Sound s) {a : Action} (ha : a.Silent) : Sound (s.note a) :=
  { h with
    told := by
      rintro ⟨b, hb, htells⟩
      rcases List.mem_append.mp hb with hb | hb
      · exact h.told ⟨b, hb, htells⟩
      · rw [List.mem_singleton.mp hb] at htells
        cases a <;> first | exact ha.elim | exact htells.elim
    legal := by
      intro cur next hmem
      rcases List.mem_append.mp hmem with hmem | hmem
      · exact h.legal cur next hmem
      · rw [← List.mem_singleton.mp hmem] at ha
        exact ha.elim
    told_last := h.told_last.concat fun hcalls => by
      cases a <;> first | exact ha.elim | exact hcalls.elim
    notified_when := by
      intro closing counters hmem
      rcases List.mem_append.mp hmem with hmem | hmem
      · exact h.notified_when closing counters hmem
      · rw [← List.mem_singleton.mp hmem] at ha
        exact ha.elim
    notified_once := h.notified_once.concat fun hnotifies => by
      cases a <;> first | exact ha.elim | exact hnotifies.elim
    notified_recorded := by
      intro hnotified
      obtain ⟨b, hb, hnotifies⟩ := h.notified_recorded hnotified
      exact ⟨b, List.mem_append_left _ hb, hnotifies⟩ }

/-- Putting work on the stack. -/
theorem Sound.push (h : Sound s) {instrs : List Instr} (hinstrs : Instr.leaveSsl ∉ instrs) :
    Sound (s.push instrs) :=
  { h with
    depth_eq := by
      change s.counters.sslDepth = (instrs ++ s.stack).count .leaveSsl
      rw [List.count_append, List.count_eq_zero_of_not_mem hinstrs, Nat.zero_add]
      exact h.depth_eq }

/-- A handler of a channel that is not closed is called. -/
theorem Sound.callHandler (h : Sound s) (hnot : s.closedNotified = false) {c : Callback}
    (handler : HandlerId) (hc : ¬ (Action.callback handler c).TellsClosed) :
    Sound (s.callHandler handler c) := by
  have hnever : ∀ b ∈ s.trace, ¬ b.TellsClosed := by
    intro b hb htells
    have hnotified := (h.told ⟨b, hb, htells⟩).1
    rw [hnot] at hnotified
    cases hnotified
  have hnote : Sound (s.note (.callback handler c)) :=
    { h with
      told := by
        rintro ⟨b, hb, htells⟩
        rcases List.mem_append.mp hb with hb | hb
        · exact absurd htells (hnever b hb)
        · rw [List.mem_singleton.mp hb] at htells
          exact absurd htells hc
      legal := by
        intro cur next hmem
        exact h.legal cur next (by simpa [TcpChannel.note] using hmem)
      told_last := h.told_last.concat fun _ => hnever
      notified_when := by
        intro closing counters hmem
        exact h.notified_when closing counters (by simpa [TcpChannel.note] using hmem)
      notified_once := h.notified_once.concat_other not_false
      notified_recorded := fun hnotified => absurd (hnot.symm.trans hnotified) Bool.false_ne_true }
  exact hnote.push (by simp)

/-- A legal transition of an open channel to an open state. -/
theorem Sound.setState (h : Sound s) {next : State} (hopen : s.closing = false)
    (hlegal : isLegalTransition s.state next = true) (hclosing : next ≠ .closing)
    (hclosed : next ≠ .closed) : Sound (s.setState next) := by
  have hnot := h.not_notified hopen
  unfold TcpChannel.setState
  split
  · exact h
  · exact
      { h with
        closing_iff := by
          change s.closing = true ↔ _
          simp [hopen, hclosing, hclosed]
        notified_iff := by
          change s.closedNotified = true ↔ _
          simp [hnot, hclosed]
        told := by
          rintro ⟨b, hb, htells⟩
          rcases List.mem_append.mp hb with hb | hb
          · exact h.told ⟨b, hb, htells⟩
          · rw [List.mem_singleton.mp hb] at htells
            exact htells.elim
        legal := by
          intro cur next' hmem
          rcases List.mem_append.mp hmem with hmem | hmem
          · exact h.legal cur next' hmem
          · cases List.mem_singleton.mp hmem
            exact hlegal
        told_last := h.told_last.concat_other not_false
        notified_when := by
          intro closing counters hmem
          exact h.notified_when closing counters (by simpa [TcpChannel.note] using hmem)
        notified_once := h.notified_once.concat_other not_false
        notified_recorded := fun hnotified =>
          absurd (hnot.symm.trans hnotified) Bool.false_ne_true }

/-- `_MaybeFinishClose` leaves nothing to be finished. -/
theorem not_mayFinish_maybeFinishClose (s : TcpChannel) : ¬ s.maybeFinishClose.MayFinish := by
  unfold TcpChannel.maybeFinishClose
  split
  · rintro ⟨-, hnot, -⟩
    unfold TcpChannel.setState at hnot
    split at hnot <;> cases hnot
  · assumption

/-- `_Fail` leaves nothing to be finished. -/
theorem not_mayFinish_fail (s : TcpChannel) (result : BCResult) (reason : Reason) :
    ¬ (s.fail result reason).MayFinish := by
  unfold TcpChannel.fail
  split
  · exact not_mayFinish_maybeFinishClose s
  · exact not_mayFinish_maybeFinishClose _

/-- `_MaybeFinishClose`. -/
theorem Sound.maybeFinishClose (h : Sound s) : Sound s.maybeFinishClose := by
  unfold TcpChannel.maybeFinishClose
  split
  · rename_i hmay
    obtain ⟨hclosing, hnot, hzero⟩ := hmay
    have hstate : s.state = .closing := by
      rcases h.closing_iff.mp hclosing with hstate | hstate
      · exact hstate
      · rw [h.notified_iff.mpr hstate] at hnot
        cases hnot
    have htold : ∀ b ∈ s.trace, ¬ b.TellsClosed := by
      intro b hb htells
      exact absurd (h.told ⟨b, hb, htells⟩).1 (by simp [hnot])
    have hfirst : ∀ b ∈ s.trace, ¬ b.Notifies := by
      intro b hb hnotifies
      cases b <;> try exact hnotifies.elim
      exact absurd (h.notified_when _ _ hb).2.2 (by simp [hnot])
    have hcalls : NoneAfter Action.TellsClosed Action.CallsHandler
        (s.trace ++ [.notified s.closing s.counters]) :=
      h.told_last.concat_other not_false
    have honce : NoneAfter Action.Notifies Action.Notifies
        (s.trace ++ [.notified s.closing s.counters]) :=
      h.notified_once.concat fun _ => hfirst
    have hset : TcpChannel.setState
        { s.note (.notified s.closing s.counters) with closedNotified := true } .closed =
          { (s.note (.notified s.closing s.counters)).note (.setState .closing .closed) with
            closedNotified := true
            state := .closed } := by
      simp [TcpChannel.setState, TcpChannel.note, hstate]
    rw [hset]
    exact
      { h with
        closing_iff := ⟨fun _ => Or.inr rfl, fun _ => hclosing⟩
        notified_iff := ⟨fun _ => rfl, fun _ => rfl⟩
        counters_zero := fun _ => hzero
        shutdown_notified := fun _ => rfl
        told := by
          rintro ⟨b, hb, htells⟩
          rcases List.mem_append.mp hb with hb | hb
          · rcases List.mem_append.mp hb with hb | hb
            · exact absurd htells (htold b hb)
            · rw [List.mem_singleton.mp hb] at htells
              exact htells.elim
          · rw [List.mem_singleton.mp hb] at htells
            exact htells.elim
        legal := by
          intro cur next hmem
          rcases List.mem_append.mp hmem with hmem | hmem
          · exact h.legal cur next (by simpa [TcpChannel.note] using hmem)
          · cases List.mem_singleton.mp hmem
            rfl
        told_last := hcalls.concat_other not_false
        notified_when := by
          intro closing counters hmem
          rcases List.mem_append.mp hmem with hmem | hmem
          · rcases List.mem_append.mp hmem with hmem | hmem
            · exact absurd trivial (hfirst _ hmem)
            · cases List.mem_singleton.mp hmem
              exact ⟨hclosing, hzero, rfl⟩
          · cases List.mem_singleton.mp hmem
        notified_once := honce.concat_other not_false
        notified_recorded := fun _ =>
          ⟨.notified s.closing s.counters, by simp [TcpChannel.note, TcpChannel.cleanup,
            TcpChannel.detach], trivial⟩ }
  · exact h

/-- `_AbandonDns`. -/
theorem Sound.abandonDns (h : Sound s) : Sound s.abandonDns := by
  unfold TcpChannel.abandonDns
  split
  · exact
      { h with
        counters_zero := by
          intro hnotified
          have hzero := h.counters_zero hnotified
          simp only [hzero]
          rfl }
  · exact h

/-- Cancelling the operations of the socket. -/
theorem Sound.cancelOps (h : Sound s) : Sound s.cancelOps := by
  unfold TcpChannel.cancelOps
  split
  · exact h.note trivial
  · exact h

/-- The start of closing. -/
theorem Sound.startClosing (h : Sound s) (hopen : s.closing = false) (result : BCResult)
    (reason : Reason) : Sound (s.startClosing result reason) := by
  have hnot := h.not_notified hopen
  have hclosing : s.state ≠ .closing := by
    intro hstate
    rw [h.closing_iff.mpr (Or.inl hstate)] at hopen
    cases hopen
  have hclosed : s.state ≠ .closed := by
    intro hstate
    rw [h.closing_iff.mpr (Or.inr hstate)] at hopen
    cases hopen
  have hset : TcpChannel.setState
      { s.note (.stopped result reason) with
        closing := true
        closeResult := result
        closeReason := some reason } .closing =
        { (s.note (.stopped result reason)).note (.setState s.state .closing) with
          closing := true
          closeResult := result
          closeReason := some reason
          state := .closing } := by
    simp [TcpChannel.setState, TcpChannel.note, hclosing]
  have hstopped : Sound (s.note (.stopped result reason)) := h.note trivial
  have hstarted : Sound (TcpChannel.setState
      { s.note (.stopped result reason) with
        closing := true
        closeResult := result
        closeReason := some reason } .closing) := by
    rw [hset]
    exact
      { hstopped with
        closing_iff := by simp
        notified_iff := by
          change s.closedNotified = true ↔ _
          simp [hnot]
        told := by
          rintro ⟨b, hb, htells⟩
          rcases List.mem_append.mp hb with hb | hb
          · exact hstopped.told ⟨b, hb, htells⟩
          · rw [List.mem_singleton.mp hb] at htells
            exact htells.elim
        legal := by
          intro cur next hmem
          rcases List.mem_append.mp hmem with hmem | hmem
          · exact hstopped.legal cur next hmem
          · cases List.mem_singleton.mp hmem
            simp [isLegalTransition, hclosing, hclosed]
        told_last := hstopped.told_last.concat_other not_false
        notified_when := by
          intro closing counters hmem
          exact h.notified_when closing counters (by simpa [TcpChannel.note] using hmem)
        notified_once := hstopped.notified_once.concat_other not_false
        notified_recorded := fun hnotified =>
          absurd (hnot.symm.trans hnotified) Bool.false_ne_true }
  have htimer : Sound (TcpChannel.unscheduleTimer _) := { hstarted with }
  exact htimer.abandonDns.cancelOps

/-- `_Fail`. -/
theorem Sound.fail (h : Sound s) (result : BCResult) (reason : Reason) :
    Sound (s.fail result reason) := by
  unfold TcpChannel.fail
  split
  · exact h.maybeFinishClose
  · rename_i hopen
    exact (h.startClosing (Bool.eq_false_iff.mpr hopen) result reason).maybeFinishClose

/-- A channel that has come out right and with nothing left to be finished. -/
structure Settled (s : TcpChannel) : Prop where
  /-- The bookkeeping is right. -/
  sound : Sound s
  /-- Nothing is left to be finished. -/
  finished : ¬ s.MayFinish

/-- An open channel cannot be finished. -/
theorem not_mayFinish_of_open (hopen : s.closing = false) : ¬ s.MayFinish := by
  rintro ⟨hclosing, -, -⟩
  rw [hopen] at hclosing
  cases hclosing

/-- A channel with something pending cannot be finished. -/
theorem not_mayFinish_of_pending (hpending : s.counters ≠ Counters.zero) : ¬ s.MayFinish :=
  fun hmay => hpending hmay.2.2

/-- `_MaybeFinishClose` settles a channel. -/
theorem Sound.settled_maybeFinishClose (h : Sound s) : Settled s.maybeFinishClose :=
  ⟨h.maybeFinishClose, not_mayFinish_maybeFinishClose s⟩

/-- `_Fail` settles a channel. -/
theorem Sound.settled_fail (h : Sound s) (result : BCResult) (reason : Reason) :
    Settled (s.fail result reason) :=
  ⟨h.fail result reason, not_mayFinish_fail s result reason⟩

/-- An open channel is settled. -/
theorem Sound.settled (h : Sound s) (hopen : s.closing = false) : Settled s :=
  ⟨h, not_mayFinish_of_open hopen⟩

/-- A settled channel is live. -/
theorem Settled.live (h : Settled s) : Live s := fun hmay => absurd hmay h.finished

end Tcp
