import Mathlib.Order.WellFounded
import Mathlib.Tactic.Common

/-!
# Loops that need not end

A turn of a loop either leads to the next turn or leaves the loop with a result. This file
says what it means that such a loop ends. When every turn but some idle ones makes a measure
smaller, it ends unless from some turn on all turns are idle.
-/

namespace Loops

variable {σ ρ : Type*} (turn : σ → σ ⊕ ρ)

/-- The loop ends from this state with this result. -/
inductive Ends : σ → ρ → Prop
  | leave {s : σ} {r : ρ} (h : turn s = .inr r) : Ends s r
  | again {s t : σ} {r : ρ} (h : turn s = .inl t) (hends : Ends t r) : Ends s r

/-- The loop ends from this state. -/
def Terminates (s : σ) : Prop := ∃ r, Ends turn s r

/-- The state in which the turn with this number begins, if the loop gets that far. -/
def after : ℕ → σ → Option σ
  | 0, s => some s
  | n + 1, s =>
    match turn s with
    | .inl t => after n t
    | .inr _ => none

variable {turn} {s t u : σ} {r r' : ρ} {n k : ℕ}

/-- After no turn there is the state before. -/
@[simp] theorem after_zero : after turn 0 s = some s := rfl

/-- A turn that goes on leaves the other turns. -/
theorem after_succ_of_inl (h : turn s = .inl t) : after turn (n + 1) s = after turn n t := by
  simp only [after, h]

/-- Behind a turn that leaves there is no state. -/
theorem after_succ_of_inr (h : turn s = .inr r) : after turn (n + 1) s = none := by
  simp only [after, h]

/-- Turns may be counted in two parts. -/
theorem after_add (h : after turn n s = some t) : after turn (n + k) s = after turn k t := by
  induction n generalizing s with
  | zero =>
    obtain rfl := Option.some.inj h
    rw [Nat.zero_add]
  | succ n ih =>
    cases hturn : turn s with
    | inl u =>
      rw [after_succ_of_inl hturn] at h
      rw [Nat.succ_add, after_succ_of_inl hturn]
      exact ih h
    | inr r =>
      rw [after_succ_of_inr hturn] at h
      exact absurd h (by simp)

/-- The result is determined. -/
theorem Ends.unique (h : Ends turn s r) (h' : Ends turn s r') : r = r' := by
  induction h with
  | leave hleave =>
    cases h' with
    | leave hleave' => exact Sum.inr.inj (hleave.symm.trans hleave')
    | again hagain _ => exact absurd (hleave.symm.trans hagain) (by simp)
  | again hagain _ ih =>
    cases h' with
    | leave hleave => exact absurd (hagain.symm.trans hleave) (by simp)
    | again hagain' hends =>
      obtain rfl := Sum.inl.inj (hagain.symm.trans hagain')
      exact ih hends

/-- One turn does not decide whether the loop ends. -/
theorem terminates_iff_of_inl (h : turn s = .inl t) :
    Terminates turn s ↔ Terminates turn t := by
  constructor
  · rintro ⟨r, hleave | ⟨hagain, hends⟩⟩
    · exact absurd (h.symm.trans hleave) (by simp)
    · obtain rfl := Sum.inl.inj (h.symm.trans hagain)
      exact ⟨r, hends⟩
  · rintro ⟨r, hends⟩
    exact ⟨r, .again h hends⟩

/-- Some turns do not decide whether the loop ends. -/
theorem terminates_iff_of_after (h : after turn n s = some t) :
    Terminates turn s ↔ Terminates turn t := by
  induction n generalizing s with
  | zero =>
    obtain rfl := Option.some.inj h
    rfl
  | succ n ih =>
    cases hturn : turn s with
    | inl u =>
      rw [after_succ_of_inl hturn] at h
      rw [terminates_iff_of_inl hturn]
      exact ih h
    | inr r =>
      rw [after_succ_of_inr hturn] at h
      exact absurd h (by simp)

/-- A loop that does not get to some turn has ended. -/
theorem terminates_of_after_eq_none (h : after turn n s = none) : Terminates turn s := by
  induction n generalizing s with
  | zero => exact absurd h (by simp)
  | succ n ih =>
    cases hturn : turn s with
    | inl t =>
      rw [after_succ_of_inl hturn] at h
      exact (terminates_iff_of_inl hturn).mpr (ih h)
    | inr r => exact ⟨r, .leave hturn⟩

/-- A loop whose turns keep to states with a next turn does not end. -/
theorem not_terminates_of_invariant {I : σ → Prop}
    (hnext : ∀ s, I s → ∃ t, turn s = .inl t ∧ I t) (hs : I s) : ¬ Terminates turn s := by
  rintro ⟨r, hends⟩
  induction hends with
  | leave hleave =>
    obtain ⟨t, hturn, -⟩ := hnext _ hs
    exact absurd (hleave.symm.trans hturn) (by simp)
  | again hagain _ ih =>
    obtain ⟨t, hturn, ht⟩ := hnext _ hs
    obtain rfl := Sum.inl.inj (hagain.symm.trans hturn)
    exact ih ht

section Measure

variable {α : Type*} [Preorder α] [WellFoundedLT α] {m : σ → α}

/-- Idle turns keep the measure, the others make it smaller: then a loop that does not end
comes to a state from which on all turns are idle. -/
theorem exists_idle_of_not_terminates {Idle : σ → Prop}
    (hidle : ∀ s t, turn s = .inl t → m t ≤ m s)
    (hless : ∀ s t, turn s = .inl t → ¬ Idle s → m t < m s) (h : ¬ Terminates turn s) :
    ∃ n t, after turn n s = some t ∧ ∀ k u, after turn k t = some u → Idle u := by
  induction hm : m s using WellFoundedLT.induction generalizing s with
  | ind a ih =>
    by_cases hall : ∀ k u, after turn k s = some u → Idle u
    · exact ⟨0, s, rfl, hall⟩
    · simp only [not_forall] at hall
      obtain ⟨k, u, hk, hu⟩ := hall
      have hle : m u ≤ m s := by
        clear h hm ih hu
        induction k generalizing s with
        | zero => rw [Option.some.inj hk]
        | succ k ihk =>
          cases hturn : turn s with
          | inl t =>
            rw [after_succ_of_inl hturn] at hk
            exact (ihk hk).trans (hidle s t hturn)
          | inr r =>
            rw [after_succ_of_inr hturn] at hk
            exact absurd hk (by simp)
      have hends : ¬ Terminates turn u := fun hu' => h ((terminates_iff_of_after hk).mpr hu')
      cases hturn : turn u with
      | inr r => exact absurd ⟨r, .leave hturn⟩ hends
      | inl t =>
        have hlt : m t < a := hm ▸ (hless u t hturn hu).trans_le hle
        have ht : ¬ Terminates turn t := fun ht => hends ((terminates_iff_of_inl hturn).mpr ht)
        obtain ⟨n, v, hn, hv⟩ := ih (m t) hlt ht rfl
        refine ⟨k + (n + 1), v, ?_, hv⟩
        rw [after_add hk, after_succ_of_inl hturn, hn]

end Measure

end Loops
