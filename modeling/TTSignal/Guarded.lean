import TTSignal.Runs

/-!
# Guarded computations

A computation that can fail is *guarded* by a condition when it gives a known value under
the condition and fails with a known kind of error otherwise. Guards are put together along
a sequence of computations, and along a list whose elements are handled one after the
other until the first failure.
-/

namespace Guarded

variable {ε α β σ : Type} {E : ε → Prop} {P Q : Prop}

/-- The computation gives the value when the condition holds and fails with an error of the
kind otherwise. -/
structure Guards (x : Except ε α) (P : Prop) (E : ε → Prop) (a : α) : Prop where
  /-- Under the condition. -/
  ok : P → x = .ok a
  /-- Otherwise. -/
  error : ¬ P → ∃ e, x = .error e ∧ E e

variable {x : Except ε α} {a : α} {b : β}

/-- A value is guarded by nothing. -/
theorem Guards.pure (a : α) : Guards (.ok a : Except ε α) True E a :=
  ⟨fun _ => rfl, fun h => absurd trivial h⟩

/-- The guard of a check is its condition. -/
theorem Guards.check {e : ε} [Decidable P] (he : E e) :
    Guards (if P then .ok a else .error e) P E a where
  ok h := if_pos h
  error h := ⟨e, if_neg h, he⟩

/-- Equivalent conditions guard the same computations. -/
theorem Guards.of_iff (h : Guards x P E a) (hiff : P ↔ Q) : Guards x Q E a where
  ok hq := h.ok (hiff.mpr hq)
  error hq := h.error fun hp => hq (hiff.mp hp)

/-- A sequence is guarded by both conditions. -/
theorem Guards.bind {g : α → Except ε β} (hx : Guards x P E a)
    (hg : P → Guards (g a) Q E b) : Guards (x >>= g) (P ∧ Q) E b where
  ok h := by
    rw [hx.ok h.1]
    exact (hg h.1).ok h.2
  error h := by
    by_cases hp : P
    · rw [hx.ok hp]
      exact (hg hp).error fun hq => h ⟨hp, hq⟩
    · obtain ⟨e, he, hkind⟩ := hx.error hp
      rw [he]
      exact ⟨e, rfl, hkind⟩

/-- A value made of the result has the same guard. -/
theorem Guards.map (h : Guards x P E a) (g : α → β) :
    Guards (x >>= fun a => .ok (g a)) P E (g a) := by
  refine (h.bind (Q := True) fun _ => Guards.pure (g a)).of_iff ?_
  exact and_iff_left trivial

variable {step : σ → α → Except ε σ} {next : σ → α → σ} {C : σ → α → Prop} {I : σ → Prop}

/-- When each step keeps an invariant and is guarded under it, a run over a list is guarded
by what its steps meet. -/
theorem Guards.foldlM (hstep : ∀ s x, I s → Guards (step s x) (C s x) E (next s x))
    (hkeeps : ∀ s x, I s → I (next s x)) {s : σ} (hs : I s) (xs : List α) :
    Guards (xs.foldlM step s) (Runs.Meets next C s xs) E (Runs.run next s xs) := by
  induction xs generalizing s with
  | nil => exact Guards.pure s
  | cons x xs ih =>
    rw [List.foldlM_cons, Runs.run_cons, Runs.Meets]
    exact (hstep s x hs).bind fun _ => ih (hkeeps s x hs)

end Guarded
