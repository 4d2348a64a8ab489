import TTSignal.Conn.Tunnel
import TTSignal.Traces
import Mathlib.Data.List.Induction

/-!
# What serves a connection of the engine

A connection is live from the engine's announcement until the engine announces its end. It
is served by the timers of the event queue, by the socket, and by a request to the engine
before the local side closes.

The calls that only handle packets, results and tunnels stay aloof: they touch neither the
timers of the engine nor what decides about the closing.
-/

namespace Conn

open BC

/-- Whether a connection is live after the entry. -/
def liveAfter (live : Bool) : Entry → Bool
  | .connCreated => true
  | .connClosed => false
  | _ => live

/-- The engine has announced a connection and not its end. -/
def live (trace : List Entry) : Bool := trace.foldl liveAfter false

/-- Whether the engine has been asked to close its last connection after the entry. -/
def askedAfter (asked : Bool) : Entry → Bool
  | .connCreated => false
  | .jqcConnClose => true
  | _ => asked

/-- The engine was asked to close the connection that it announced last. -/
def askedToClose (trace : List Entry) : Bool := trace.foldl askedAfter false

/-- The socket is closed and the queue detached only without a live connection. -/
def endNeeded (before : List Entry) (e : Entry) : Prop :=
  e = .udpClose ∨ e = .detach → live before = false

/-- An entry that is not about a connection of the engine, the socket or the queue. -/
def Entry.Apart : Entry → Prop
  | .connCreated | .connClosed | .jqcConnClose | .udpClose | .detach => False
  | _ => True

/-- Whether there is a life after another entry. -/
theorem live_concat (trace : List Entry) (e : Entry) :
    live (trace ++ [e]) = liveAfter (live trace) e := by
  simp [live]

/-- Whether the close was asked for after another entry. -/
theorem askedToClose_concat (trace : List Entry) (e : Entry) :
    askedToClose (trace ++ [e]) = askedAfter (askedToClose trace) e := by
  simp [askedToClose]

/-- Entries apart from the life do not change it. -/
theorem live_append {trace new : List Entry} (hnew : ∀ e ∈ new, e.Apart) :
    live (trace ++ new) = live trace := by
  induction new using List.reverseRecOn with
  | nil => rw [List.append_nil]
  | append_singleton new e ih =>
    have he : e.Apart := hnew e (by simp)
    rw [← List.append_assoc, live_concat, ih fun e' he' => hnew e' (by simp [he'])]
    cases e <;> first | rfl | exact he.elim

/-- Nor do they change whether the close was asked for. -/
theorem askedToClose_append {trace new : List Entry} (hnew : ∀ e ∈ new, e.Apart) :
    askedToClose (trace ++ new) = askedToClose trace := by
  induction new using List.reverseRecOn with
  | nil => rw [List.append_nil]
  | append_singleton new e ih =>
    have he : e.Apart := hnew e (by simp)
    rw [← List.append_assoc, askedToClose_concat, ih fun e' he' => hnew e' (by simp [he'])]
    cases e <;> first | rfl | exact he.elim

/-- Without an announcement there is no live connection. -/
theorem created_of_live {trace : List Entry} (h : live trace = true) : .connCreated ∈ trace := by
  induction trace using List.reverseRecOn with
  | nil => cases h
  | append_singleton trace e ih =>
    rw [live_concat] at h
    cases e with
    | connCreated => simp
    | connClosed => cases h
    | _ => exact List.mem_append_left _ (ih h)

namespace SMPConnection

/-- The timers of the engine are armed, and the connect timer is none of them. -/
structure Timed (s : SMPConnection) : Prop where
  /-- The timers of the engine are armed. -/
  armed : ∀ n ∈ s.engineTimers, s.queue.Armed n .engine
  /-- The queue is proper. -/
  proper : s.queue.Proper
  /-- The calls that the engine has issued have numbers that were given out. -/
  held : ∀ n ∈ s.issued, n ≤ s.queue.nextTaskId
  /-- So has the timer of `Connect`. -/
  given : s.connectTimerId ≤ s.queue.nextTaskId
  /-- The timer of `Connect` is none of the engine's. -/
  other : 0 < s.connectTimerId → s.connectTimerId ∉ s.issued ∧ s.connectTimerId ∉ s.engineTimers

variable {s t u : SMPConnection}

/-- Before the life no timer is armed. -/
theorem timed_create (config : Config) (tunnel : Bool) : (create config tunnel).Timed where
  armed := by simp [create]
  proper := EventQueue.proper_empty
  held := by simp [create]
  given := Nat.le_refl _
  other := by simp [create]

/-- A new number is none of the engine's. -/
theorem Timed.fresh (h : s.Timed) :
    s.queue.nextTaskId + 1 ∉ s.issued ∧ s.queue.nextTaskId + 1 ∉ s.engineTimers := by
  refine ⟨fun hmem => ?_, fun hmem => ?_⟩
  · have hle := h.held _ hmem
    omega
  · have harmed : s.queue.delayTasks _ = _ := h.armed _ hmem
    have hle := h.proper.le_of_known (by rw [harmed]; simp)
    omega

/-- An engine timer is scheduled under a number that is not the connect timer's. -/
theorem Timed.scheduleEngine (h : s.Timed) {timer : ℕ} (hown : timer = 0 ∨ timer ∈ s.issued)
    {issued : List ℕ}
    (hissued : ∀ n ∈ issued, n ∈ s.issued ∨ n = (s.queue.scheduleTask timer .engine).2) :
    Timed { s with
      queue := (s.queue.scheduleTask timer .engine).1
      issued := issued
      engineTimers := (s.queue.scheduleTask timer .engine).2 :: s.engineTimers } := by
  obtain ⟨hpos, hle, hnext⟩ := h.proper.scheduled timer .engine
  have hgiven := h.given
  have hother : 0 < s.connectTimerId →
      s.connectTimerId ≠ (s.queue.scheduleTask timer .engine).2 := by
    intro hzero
    obtain ⟨hissue, -⟩ := h.other hzero
    rcases @EventQueue.scheduleTask_number _ _ s.queue timer .engine with
      ⟨hsame, -⟩ | ⟨hnew, -⟩
    · rcases hown with rfl | hmem
      · omega
      · rw [hsame]
        rintro rfl
        exact hissue hmem
    · omega
  refine ⟨?_, h.proper.scheduleTask, ?_, by dsimp only; omega, fun hzero => ?_⟩
  · intro n hn
    by_cases hsame : n = (s.queue.scheduleTask timer .engine).2
    · rw [hsame]
      exact EventQueue.scheduleTask_armed
    · have hmem : n ∈ s.engineTimers := (List.mem_cons.mp hn).resolve_left hsame
      exact (EventQueue.scheduleTask_other hsame).trans (h.armed n hmem)
  · intro n hn
    rcases hissued n hn with hold | hnew
    · have := h.held n hold
      dsimp only
      omega
    · rw [hnew]
      exact hle
  · obtain ⟨hissue, htimer⟩ := h.other hzero
    refine ⟨fun hmem => ?_, fun hmem => ?_⟩
    · rcases hissued _ hmem with hold | hnew
      · exact hissue hold
      · exact hother hzero hnew
    · rcases List.mem_cons.mp hmem with hnew | hold
      · exact hother hzero hnew
      · exact htimer hold

/-- A call of the timer keeps the timers in order. -/
theorem Timed.onTimer (h : s.Timed) (call : TimerCall) : (s.onTimer call).Timed := by
  cases call with
  | set =>
    refine h.scheduleEngine (Or.inl rfl) fun n hn => ?_
    rcases List.mem_cons.mp hn with hnew | hold
    · exact Or.inr hnew
    · exact Or.inl hold
  | update timer =>
    simp only [SMPConnection.onTimer]
    split
    · rename_i hmem
      exact h.scheduleEngine (Or.inr hmem) fun n hn => Or.inl hn
    · exact h
  | unset timer onlyCancel =>
    simp only [SMPConnection.onTimer]
    split
    · refine ⟨?_, h.proper.unscheduleTask, ?_, ?_, fun hzero => ?_⟩
      · intro n hn
        obtain ⟨hmem, hne⟩ := List.mem_filter.mp hn
        exact (EventQueue.unscheduleTask_other (by simpa using hne)).trans (h.armed n hmem)
      · intro n hn
        rw [EventQueue.unscheduleTask_nextTaskId]
        refine h.held n ?_
        split at hn
        · exact hn
        · exact (List.mem_filter.mp hn).1
      · rw [EventQueue.unscheduleTask_nextTaskId]
        exact h.given
      · obtain ⟨hissue, htimer⟩ := h.other hzero
        refine ⟨fun hmem => hissue ?_, fun hmem => htimer (List.mem_filter.mp hmem).1⟩
        split at hmem
        · exact hmem
        · exact (List.mem_filter.mp hmem).1
    · exact h
  | nextTick => exact ⟨h.armed, ⟨h.proper.numbered, h.proper.zero⟩, h.held, h.given, h.other⟩

/-- The connect timer is started. -/
theorem Timed.startConnectTimer (h : s.Timed) (n : ℕ) : (s.awaitConnect n).Timed := by
  obtain ⟨hpos, hle, hnext⟩ := h.proper.scheduled s.connectTimerId .connectTimeout
  have hother : (s.queue.scheduleTask s.connectTimerId .connectTimeout).2 ∉ s.issued ∧
      (s.queue.scheduleTask s.connectTimerId .connectTimeout).2 ∉ s.engineTimers := by
    rcases @EventQueue.scheduleTask_number _ _ s.queue s.connectTimerId .connectTimeout with
      ⟨hsame, -⟩ | ⟨hnew, -⟩
    · rw [hsame] at hpos ⊢
      exact h.other hpos
    · rw [hnew]
      exact h.fresh
  refine ⟨fun m hm => ?_, h.proper.scheduleTask, fun m hm => ?_, hle, fun _ => hother⟩
  · have hne : m ≠ (s.queue.scheduleTask s.connectTimerId .connectTimeout).2 := by
      rintro rfl
      exact hother.2 hm
    exact (EventQueue.scheduleTask_other hne).trans (h.armed m hm)
  · have hold := h.held m hm
    exact Nat.le_trans hold hnext

/-- A timer runs out, and the engine's list does not hold it any longer. -/
theorem Timed.expire (h : s.Timed) {timer : ℕ} {f : Timer} (harmed : s.queue.Armed timer f)
    {engineTimers : List ℕ} (hsub : ∀ n ∈ engineTimers, n ∈ s.engineTimers ∧ n ≠ timer) :
    Timed { s with
      queue :=
        { s.queue with delayTasks := Function.update s.queue.delayTasks timer (some none) }
      engineTimers := engineTimers } := by
  refine ⟨fun n hn => ?_, h.proper.expire harmed, h.held, h.given, fun hzero => ?_⟩
  · obtain ⟨hmem, hne⟩ := hsub n hn
    have hold : s.queue.delayTasks n = some (some .engine) := h.armed n hmem
    simpa [EventQueue.Armed, hne] using hold
  · exact ⟨(h.other hzero).1, fun hmem => (h.other hzero).2 (hsub _ hmem).1⟩

end SMPConnection

end Conn
