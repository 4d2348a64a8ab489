import Mathlib.Data.List.Basic
import Mathlib.Logic.Relation

/-!
# Runs of a step function

A component that reacts to one event at a time is a function from a state and an
event to a state. This file collects the few facts about whole runs that the
component models use: what one step preserves, a run preserves, either from every
state or when every step meets a stated condition.
-/

namespace Runs

variable {σ ε : Type*}

/-- The state reached from `s` by handling the events of a list in order. -/
def run (step : σ → ε → σ) (s : σ) (events : List ε) : σ := events.foldl step s

/-- No event leaves the state unchanged. -/
@[simp] theorem run_nil (step : σ → ε → σ) (s : σ) : run step s [] = s := rfl

/-- The first event of a run is handled first. -/
@[simp] theorem run_cons (step : σ → ε → σ) (s : σ) (e : ε) (events : List ε) :
    run step s (e :: events) = run step (step s e) events := rfl

/-- A run over a concatenation is the run over its second part from the end of the first. -/
theorem run_append (step : σ → ε → σ) (s : σ) (first second : List ε) :
    run step s (first ++ second) = run step (run step s first) second :=
  List.foldl_append

/-- The last event of a run is handled in the state reached before it. -/
theorem run_concat (step : σ → ε → σ) (s : σ) (events : List ε) (e : ε) :
    run step s (events ++ [e]) = step (run step s events) e := by
  simp [run_append]

/-- Every event of the run meets the condition in the state in which it is handled. -/
def Meets (step : σ → ε → σ) (C : σ → ε → Prop) : σ → List ε → Prop
  | _, [] => True
  | s, e :: events => C s e ∧ Meets step C (step s e) events

/-- Whether a run meets a condition can be computed. -/
instance Meets.decidable {step : σ → ε → σ} {C : σ → ε → Prop} [∀ s e, Decidable (C s e)] :
    (s : σ) → (events : List ε) → Decidable (Meets step C s events)
  | _, [] => .isTrue trivial
  | s, e :: events =>
    have : Decidable (Meets step C (step s e) events) := Meets.decidable (step s e) events
    inferInstanceAs (Decidable (_ ∧ _))

/-- A condition is met along a concatenation exactly when it is met along both parts. -/
theorem meets_append {step : σ → ε → σ} {C : σ → ε → Prop} {s : σ} {first second : List ε} :
    Meets step C s (first ++ second) ↔
      Meets step C s first ∧ Meets step C (run step s first) second := by
  induction first generalizing s with
  | nil => simp [Meets]
  | cons e first ih => simp [Meets, ih, and_assoc]

/-- A run that meets two conditions meets both at every step. -/
theorem Meets.and {step : σ → ε → σ} {C D : σ → ε → Prop} {s : σ} {events : List ε}
    (hC : Meets step C s events) (hD : Meets step D s events) :
    Meets step (fun s e => C s e ∧ D s e) s events := by
  induction events generalizing s with
  | nil => trivial
  | cons e events ih => exact ⟨⟨hC.1, hD.1⟩, ih hC.2 hD.2⟩

/-- A run that meets a condition meets it together with what all its events have in common. -/
theorem Meets.and_forall {step : σ → ε → σ} {C : σ → ε → Prop} {P : ε → Prop} {s : σ}
    {events : List ε} (hmeets : Meets step C s events) (hall : ∀ e ∈ events, P e) :
    Meets step (fun s e => C s e ∧ P e) s events := by
  induction events generalizing s with
  | nil => trivial
  | cons e events ih =>
    obtain ⟨hC, hrest⟩ := hmeets
    obtain ⟨hP, hothers⟩ := List.forall_mem_cons.mp hall
    exact ⟨⟨hC, hP⟩, ih hrest hothers⟩

/-- What every step preserves holds at the end of every run. -/
theorem invariant {step : σ → ε → σ} {I : σ → Prop} (hstep : ∀ s e, I s → I (step s e))
    {s : σ} (hs : I s) (events : List ε) : I (run step s events) := by
  induction events generalizing s with
  | nil => exact hs
  | cons e events ih => exact ih (hstep s e hs)

/-- What every step that meets the condition preserves holds at the end of every run
whose steps all meet it. -/
theorem invariant_of_meets {step : σ → ε → σ} {C : σ → ε → Prop} {I : σ → Prop}
    (hstep : ∀ s e, I s → C s e → I (step s e)) {s : σ} (hs : I s) {events : List ε}
    (hmeets : Meets step C s events) : I (run step s events) := by
  induction events generalizing s with
  | nil => exact hs
  | cons e events ih => exact ih (hstep s e hs hmeets.1) hmeets.2

/-- When every step is followed by steps of another system that keep the two related, so is
every run. -/
theorem exists_followed {α : Type*} {step : σ → ε → σ} {Step : ε → α → α → Prop} {R : σ → α → Prop}
    (hstep : ∀ s a e, R s a → ∃ a', Relation.ReflTransGen (Step e) a a' ∧ R (step s e) a')
    {s : σ} {a : α} (hs : R s a) (events : List ε) :
    ∃ a', Relation.ReflTransGen (fun a a' => ∃ e, Step e a a') a a' ∧ R (run step s events) a' := by
  induction events generalizing s a with
  | nil => exact ⟨a, .refl, hs⟩
  | cons e events ih =>
    obtain ⟨b, hab, hb⟩ := hstep s a e hs
    obtain ⟨c, hbc, hc⟩ := ih hb
    exact ⟨c, (hab.lift id fun _ _ h => ⟨e, h⟩).trans hbc, hc⟩

/-- Where an invariant and one condition give another one at every step, a run whose steps
all meet the one meets the other. -/
theorem Meets.of_invariant {step : σ → ε → σ} {C D : σ → ε → Prop} {I : σ → Prop}
    (hstep : ∀ s e, I s → C s e → D s e ∧ I (step s e)) {s : σ} (hs : I s) {events : List ε}
    (hmeets : Meets step C s events) : Meets step D s events := by
  induction events generalizing s with
  | nil => trivial
  | cons e events ih =>
    obtain ⟨hC, hrest⟩ := hmeets
    obtain ⟨hD, hnext⟩ := hstep s e hs hC
    exact ⟨hD, ih hnext hrest⟩

/-- A property of the states holds in every state of a run exactly when every step meets
the condition: the invariant implies the property, a step that meets the condition keeps
the invariant, and one that does not meet it loses the property. -/
theorem always_iff_meets {step : σ → ε → σ} {C : σ → ε → Prop} {I P : σ → Prop}
    (hP : ∀ s, I s → P s) (hstep : ∀ s e, I s → C s e → I (step s e))
    (hlost : ∀ s e, I s → ¬ C s e → ¬ P (step s e)) {s : σ} (hs : I s) (events : List ε) :
    (∀ first, first <+: events → P (run step s first)) ↔ Meets step C s events := by
  induction events generalizing s with
  | nil =>
    constructor
    · intro _
      trivial
    · rintro _ first hfirst
      rw [List.prefix_nil.mp hfirst]
      exact hP s hs
  | cons e events ih =>
    constructor
    · intro h
      have hC : C s e := by
        by_contra hC
        exact hlost s e hs hC (h [e] ⟨events, rfl⟩)
      refine ⟨hC, (ih (hstep s e hs hC)).mp fun first hfirst => ?_⟩
      exact h (e :: first) ((List.prefix_cons_inj e).mpr hfirst)
    · rintro ⟨hC, hmeets⟩ first hfirst
      cases first with
      | nil => exact hP s hs
      | cons e' first =>
        obtain ⟨rfl, hrest⟩ := List.cons_prefix_cons.mp hfirst
        exact (ih (hstep s e' hs hC)).mpr hmeets first hrest

end Runs
