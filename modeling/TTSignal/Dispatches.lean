import Mathlib.Data.List.Basic
import Mathlib.Logic.Function.Basic
import Mathlib.Logic.Relation

/-!
# Calls behind guards

A component calls others, each call at most once. Under its lock it arms a guard on its
thread, then leaves the lock, makes the call, and disarms the guard when the call has
returned. The armed guards are counted, so that whoever tears the component down can wait
until no thread but its own is in a call. This file has the calls of one component as a
step relation, with what their guards and their record say in every state.
-/

namespace Dispatches

variable {ι τ : Type*}

/-- How far a call has come. -/
inductive Stage (τ : Type*) where
  /-- It may still be made. -/
  | waiting
  /-- Its guard is armed. -/
  | armed (t : τ)
  /-- It is being made. -/
  | calling (t : τ)
  /-- It has returned. -/
  | returned
  /-- It is not made any more. -/
  | skipped
  deriving DecidableEq

/-- The thread of its guard. -/
def Stage.guard : Stage τ → Option τ
  | .armed t | .calling t => some t
  | _ => none

/-- What is recorded. -/
inductive Note (ι : Type*) where
  /-- A call begins. -/
  | began (i : ι)
  /-- A call returns. -/
  | ended (i : ι)
  deriving DecidableEq

/-- The calls of a component. -/
structure State (ι τ : Type*) where
  /-- How far each call has come. -/
  stage : ι → Stage τ
  /-- The armed guards. -/
  guards : List (τ × ι)
  /-- Their number, as the component counts it. -/
  inFlight : ℕ
  /-- What has happened. -/
  log : List (Note ι)

/-- No call has been made. -/
def State.init : State ι τ := ⟨fun _ => .waiting, [], 0, []⟩

/-- How often a call in this stage has begun. -/
def Stage.began : Stage τ → ℕ
  | .calling _ | .returned => 1
  | _ => 0

/-- How often a call in this stage has returned. -/
def Stage.ended : Stage τ → ℕ
  | .returned => 1
  | _ => 0

/-- A dispatch begins once at most. -/
theorem Stage.began_le_one (stage : Stage τ) : stage.began ≤ 1 := by
  cases stage <;> simp [began]

variable [DecidableEq ι] [DecidableEq τ]

namespace State

variable (a : State ι τ) (i : ι) (t : τ)

/-- A guard is armed. -/
def arm : State ι τ :=
  { a with
    stage := Function.update a.stage i (.armed t)
    guards := (t, i) :: a.guards
    inFlight := a.inFlight + 1 }

/-- The call behind a guard begins. -/
def start : State ι τ :=
  { a with
    stage := Function.update a.stage i (.calling t)
    log := a.log ++ [.began i] }

/-- The call returns and its guard is disarmed. -/
def finish : State ι τ :=
  { a with
    stage := Function.update a.stage i .returned
    guards := a.guards.erase (t, i)
    inFlight := a.inFlight - 1
    log := a.log ++ [.ended i] }

/-- There is nobody to call. -/
def skip : State ι τ := { a with stage := Function.update a.stage i .skipped }

end State

/-- What a thread may do. -/
inductive Step (t : τ) (a : State ι τ) : State ι τ → Prop where
  | arm {i : ι} (h : a.stage i = .waiting) : Step t a (a.arm i t)
  | start {i : ι} (h : a.stage i = .armed t) : Step t a (a.start i t)
  | finish {i : ι} (h : a.stage i = .calling t) : Step t a (a.finish i t)
  | skip {i : ι} (h : a.stage i = .waiting) : Step t a (a.skip i)

/-- The guards and the record agree with the stages. -/
structure State.Coherent (a : State ι τ) : Prop where
  /-- All guards are counted. -/
  inFlight : a.inFlight = a.guards.length
  /-- Each guard protects one call. -/
  guards : ∀ t i, a.guards.count (t, i) = if (a.stage i).guard = some t then 1 else 0
  /-- The calls that have begun. -/
  began : ∀ i, a.log.count (.began i) = (a.stage i).began
  /-- The calls that have returned. -/
  ended : ∀ i, a.log.count (.ended i) = (a.stage i).ended

variable {a a' : State ι τ} {i : ι} {t u : τ}

/-- In the beginning nothing has begun. -/
theorem State.coherent_init : (State.init : State ι τ).Coherent := by
  constructor <;> simp [State.init, Stage.guard, Stage.began, Stage.ended]

/-- Arming a waiting dispatch keeps the state coherent. -/
theorem State.Coherent.arm (h : a.Coherent) (hi : a.stage i = .waiting) (t : τ) :
    (a.arm i t).Coherent := by
  constructor
  · simp [State.arm, h.inFlight]
  · intro u j
    have hold := h.guards u j
    simp only [State.arm, List.count_cons, Function.update_apply]
    grind [Stage.guard]
  · intro j
    have hold := h.began j
    simp only [State.arm, Function.update_apply]
    grind [Stage.began]
  · intro j
    have hold := h.ended j
    simp only [State.arm, Function.update_apply]
    grind [Stage.ended]

/-- So does starting an armed one. -/
theorem State.Coherent.start (h : a.Coherent) (hi : a.stage i = .armed t) :
    (a.start i t).Coherent := by
  constructor
  · exact h.inFlight
  · intro u j
    have hold := h.guards u j
    simp only [State.start, Function.update_apply]
    grind [Stage.guard]
  · intro j
    have hold := h.began j
    simp only [State.start, List.count_append, List.count_singleton, Function.update_apply]
    grind [Stage.began]
  · intro j
    have hold := h.ended j
    simp only [State.start, List.count_append, List.count_singleton, Function.update_apply]
    grind [Stage.ended]

/-- So does finishing one that calls. -/
theorem State.Coherent.finish (h : a.Coherent) (hi : a.stage i = .calling t) :
    (a.finish i t).Coherent := by
  have hmem : (t, i) ∈ a.guards := by
    apply List.count_pos_iff.mp
    rw [h.guards, hi]
    simp [Stage.guard]
  constructor
  · simp [State.finish, h.inFlight, List.length_erase_of_mem hmem]
  · intro u j
    have hold := h.guards u j
    simp only [State.finish, List.count_erase, Function.update_apply]
    grind [Stage.guard]
  · intro j
    have hold := h.began j
    simp only [State.finish, List.count_append, List.count_singleton, Function.update_apply]
    grind [Stage.began]
  · intro j
    have hold := h.ended j
    simp only [State.finish, List.count_append, List.count_singleton, Function.update_apply]
    grind [Stage.ended]

/-- So does skipping one that waits. -/
theorem State.Coherent.skip (h : a.Coherent) (hi : a.stage i = .waiting) :
    (a.skip i).Coherent := by
  constructor
  · exact h.inFlight
  · intro u j
    have hold := h.guards u j
    simp only [State.skip, Function.update_apply]
    grind [Stage.guard]
  · intro j
    have hold := h.began j
    simp only [State.skip, Function.update_apply]
    grind [Stage.began]
  · intro j
    have hold := h.ended j
    simp only [State.skip, Function.update_apply]
    grind [Stage.ended]

/-- What a thread does leaves the calls behind the guards of other threads as they are. -/
theorem Step.stage_eq_iff (hstep : Step t a a') (hu : u ≠ t) {stage : Stage τ}
    (hstage : stage.guard = some u) : a'.stage i = stage ↔ a.stage i = stage := by
  cases hstep
  all_goals
    simp only [State.arm, State.start, State.finish, State.skip, Function.update_apply]
    grind [Stage.guard]

/-- The same along a run of one thread. -/
theorem stage_eq_iff_of_reachable (h : Relation.ReflTransGen (Step t) a a') (hu : u ≠ t)
    {stage : Stage τ} (hstage : stage.guard = some u) : a'.stage i = stage ↔ a.stage i = stage := by
  induction h with
  | refl => rfl
  | tail _ hstep ih => rw [hstep.stage_eq_iff hu hstage, ih]

/-- No call begins twice. -/
theorem State.Coherent.began_le_one (h : a.Coherent) (i : ι) : a.log.count (.began i) ≤ 1 := by
  rw [h.began]
  exact (a.stage i).began_le_one

/-- When a thread counts no guards but its own, no other thread is behind a guard. -/
theorem State.Coherent.guard_eq (h : a.Coherent)
    (hcount : a.inFlight ≤ a.guards.countP fun g => g.1 = t)
    (hi : (a.stage i).guard = some u) : u = t := by
  rw [h.inFlight] at hcount
  have hall := List.countP_eq_length.mp (Nat.le_antisymm List.countP_le_length hcount)
  have hmem : (u, i) ∈ a.guards := by
    apply List.count_pos_iff.mp
    rw [h.guards, if_pos hi]
    exact Nat.one_pos
  simpa using hall _ hmem

end Dispatches
