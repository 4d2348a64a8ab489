import Mathlib.Logic.Function.Basic

/-!
# Event queues with delayed tasks

An event queue runs posted tasks one after the other in the order of their posting and
keeps a map of delayed tasks. A delayed task stays in the map when it has expired or
has been cancelled, so its number can be scheduled again; only erasing it from the map
frees the number.
-/

namespace BC

/-- The queue of posted tasks and the map of delayed tasks. A number maps to the function
its timer runs, or to no function when the timer is idle. -/
structure EventQueue (τ δ : Type) where
  /-- The posted tasks, oldest first (`m_lstEvents`). -/
  events : List τ
  /-- The delayed tasks (`m_mapDelayTasks`). -/
  delayTasks : Nat → Option (Option δ)
  /-- The last number given to a delayed task (`m_nNextTaskId`). -/
  nextTaskId : Nat

namespace EventQueue

variable {τ δ : Type} (q : EventQueue τ δ)

/-- A queue on which nothing has been posted or scheduled. -/
def empty : EventQueue τ δ := ⟨[], fun _ => none, 0⟩

/-- `PostTask`. -/
def postTask (t : τ) : EventQueue τ δ := { q with events := q.events ++ [t] }

/-- `ScheduleTask`: a known number gets a new function, an unknown one a new number. The
number under which the function stands is returned. -/
def scheduleTask (id : Nat) (f : δ) : EventQueue τ δ × Nat :=
  match q.delayTasks id with
  | some _ => ({ q with delayTasks := Function.update q.delayTasks id (some (some f)) }, id)
  | none =>
    ({ q with
        delayTasks := Function.update q.delayTasks (q.nextTaskId + 1) (some (some f))
        nextTaskId := q.nextTaskId + 1 }, q.nextTaskId + 1)

/-- `UnscheduleTask`: the function is dropped, and the number too unless the task is only
cancelled. -/
def unscheduleTask (id : Nat) (onlyCancel : Bool) : EventQueue τ δ :=
  match q.delayTasks id with
  | none => q
  | some _ =>
    { q with
      delayTasks := Function.update q.delayTasks id (if onlyCancel then some none else none) }

/-- `UnscheduleAllTasks`. -/
def unscheduleAllTasks : EventQueue τ δ := { q with delayTasks := fun _ => none }

/-- The timer with this number runs out: its function is run once. -/
def expire (id : Nat) : Option (δ × EventQueue τ δ) :=
  match q.delayTasks id with
  | some (some f) => some (f, { q with delayTasks := Function.update q.delayTasks id (some none) })
  | _ => none

/-- A timer is armed with a function. -/
def Armed (id : Nat) (f : δ) : Prop := q.delayTasks id = some (some f)

/-- Numbers above the last one given are unused. -/
def Numbered : Prop := ∀ id, q.nextTaskId < id → q.delayTasks id = none

variable {q} {id other : Nat} {f g : δ} {t : τ} {onlyCancel : Bool}

/-- A posted task waits behind the others. -/
@[simp] theorem postTask_events : (q.postTask t).events = q.events ++ [t] := rfl

/-- It is not a delayed one. -/
@[simp] theorem postTask_delayTasks : (q.postTask t).delayTasks = q.delayTasks := rfl

/-- It takes no number. -/
@[simp] theorem postTask_nextTaskId : (q.postTask t).nextTaskId = q.nextTaskId := rfl

/-- A delayed task does not wait yet. -/
@[simp] theorem scheduleTask_events : (q.scheduleTask id f).1.events = q.events := by
  unfold scheduleTask
  split <;> rfl

/-- Taking back a delayed task leaves those that wait. -/
@[simp] theorem unscheduleTask_events :
    (q.unscheduleTask id onlyCancel).events = q.events := by
  unfold unscheduleTask
  split <;> rfl

/-- It leaves the numbers. -/
@[simp] theorem unscheduleTask_nextTaskId :
    (q.unscheduleTask id onlyCancel).nextTaskId = q.nextTaskId := by
  unfold unscheduleTask
  split <;> rfl

/-- Taking back all delayed tasks leaves those that wait. -/
@[simp] theorem unscheduleAllTasks_events : q.unscheduleAllTasks.events = q.events := rfl

/-- An expiring timer had the function it runs, and posted tasks stay. -/
theorem expire_eq_some {q' : EventQueue τ δ} (h : q.expire id = some (f, q')) :
    q.Armed id f ∧
      q' = { q with delayTasks := Function.update q.delayTasks id (some none) } := by
  unfold expire at h
  split at h
  · rename_i f' hf
    obtain ⟨rfl, rfl⟩ := by simpa using h
    exact ⟨hf, rfl⟩
  · exact absurd h (by simp)

/-- An armed timer expires with its function. -/
theorem expire_of_armed (h : q.Armed id f) :
    q.expire id =
      some (f, { q with delayTasks := Function.update q.delayTasks id (some none) }) := by
  unfold expire
  rw [h]

/-- Scheduling arms the number it returns. -/
theorem scheduleTask_armed : (q.scheduleTask id f).1.Armed (q.scheduleTask id f).2 f := by
  unfold scheduleTask
  split <;> simp [Armed]

/-- Scheduling returns the given number or a new one. -/
theorem scheduleTask_number :
    (q.scheduleTask id f).2 = id ∧ (q.scheduleTask id f).1.nextTaskId = q.nextTaskId ∨
      (q.scheduleTask id f).2 = q.nextTaskId + 1 ∧
        (q.scheduleTask id f).1.nextTaskId = q.nextTaskId + 1 := by
  unfold scheduleTask
  split
  · exact Or.inl ⟨rfl, rfl⟩
  · exact Or.inr ⟨rfl, rfl⟩

/-- Scheduling leaves every other timer as it was. -/
theorem scheduleTask_other (h : other ≠ (q.scheduleTask id f).2) :
    (q.scheduleTask id f).1.delayTasks other = q.delayTasks other := by
  unfold scheduleTask at h ⊢
  split at h <;> rename_i hid <;> simp_all

/-- Unscheduling leaves every other timer as it was. -/
theorem unscheduleTask_other (h : other ≠ id) :
    (q.unscheduleTask id onlyCancel).delayTasks other = q.delayTasks other := by
  unfold unscheduleTask
  split <;> simp [h]

/-- Numbers above the last one given are unused, and so is zero. -/
structure Proper (q : EventQueue τ δ) : Prop where
  /-- Numbers that have not been given out have no task. -/
  numbered : q.Numbered
  /-- The number 0 has none. -/
  zero : q.delayTasks 0 = none

/-- An empty queue is proper. -/
theorem proper_empty : (empty : EventQueue τ δ).Proper := ⟨fun _ _ => rfl, rfl⟩

/-- A known number is one that has been given. -/
theorem Proper.le_of_known (h : q.Proper) (hknown : q.delayTasks id ≠ none) :
    id ≤ q.nextTaskId := by
  by_contra hlt
  exact hknown (h.numbered id (by omega))

/-- The number that scheduling returns is never zero, and it has been given. -/
theorem Proper.scheduled (h : q.Proper) (id : Nat) (f : δ) :
    0 < (q.scheduleTask id f).2 ∧ (q.scheduleTask id f).2 ≤ (q.scheduleTask id f).1.nextTaskId ∧
      q.nextTaskId ≤ (q.scheduleTask id f).1.nextTaskId := by
  unfold scheduleTask
  split
  · rename_i hknown
    have hpos : id ≠ 0 := by
      rintro rfl
      rw [h.zero] at hknown
      cases hknown
    have hle := h.le_of_known (by rw [hknown]; simp)
    exact ⟨Nat.pos_of_ne_zero hpos, hle, Nat.le_refl _⟩
  · exact ⟨Nat.succ_pos _, Nat.le_refl _, Nat.le_succ _⟩

/-- A queue with another delayed task is proper. -/
theorem Proper.scheduleTask (h : q.Proper) : (q.scheduleTask id f).1.Proper := by
  obtain ⟨hpos, hle, hnext⟩ := h.scheduled id f
  constructor
  · intro other hother
    rw [scheduleTask_other (by omega)]
    exact h.numbered other (by omega)
  · rw [scheduleTask_other (by omega)]
    exact h.zero

/-- Taking functions from timers gives no number. -/
theorem Proper.of_le (h : q.Proper) {q' : EventQueue τ δ} (hnext : q'.nextTaskId = q.nextTaskId)
    (hle : ∀ n, q.delayTasks n = none → q'.delayTasks n = none) : q'.Proper :=
  ⟨fun n hn => hle n (h.numbered n (by omega)), hle 0 h.zero⟩

/-- So is one with a task taken back. -/
theorem Proper.unscheduleTask (h : q.Proper) : (q.unscheduleTask id onlyCancel).Proper := by
  refine h.of_le unscheduleTask_nextTaskId fun n hnone => ?_
  unfold EventQueue.unscheduleTask
  split
  · exact hnone
  · rename_i hknown
    have hne : n ≠ id := by
      rintro rfl
      rw [hnone] at hknown
      cases hknown
    simp [hne, hnone]

/-- So is one in which a delayed task has gone off. -/
theorem Proper.expire (h : q.Proper) (harmed : q.Armed id f) :
    EventQueue.Proper { q with delayTasks := Function.update q.delayTasks id (some none) } := by
  refine h.of_le rfl fun n hnone => ?_
  have hne : n ≠ id := by
    rintro rfl
    rw [Armed, hnone] at harmed
    cases harmed
  simp [hne, hnone]

end EventQueue

end BC
