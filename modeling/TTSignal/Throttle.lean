import Mathlib.Data.List.Basic
import Mathlib.Data.List.TakeWhile

/-!
# Throttled sequences

A throttle lets the first item through and then ignores the items that the last one it let
through tells it to ignore. The items that come through are the heads of bursts: a head and
the items it ignores, up to the next head. This file defines the throttle on lists, states
what it lets through as a relation, and shows that the two agree.
-/

namespace Throttle

variable {α : Type*} (ignores : α → α → Prop)

/-- The second list is what a throttle lets through of the first: the heads of its bursts. -/
inductive Throttled : List α → List α → Prop
  | nil : Throttled [] []
  | burst {a : α} {ignored rest heads : List α} (hignored : ∀ b ∈ ignored, ignores a b)
      (hrest : ∀ b ∈ rest.head?, ¬ ignores a b) (hheads : Throttled rest heads) :
      Throttled (a :: (ignored ++ rest)) (a :: heads)

section Through

variable [DecidableRel ignores]

/-- The last item that came through, if there is one, ignores the item. -/
def Ignored (last : Option α) (a : α) : Prop := ∃ b ∈ last, ignores b a

instance (last : Option α) (a : α) : Decidable (Ignored ignores last a) :=
  match last with
  | none => isFalse (by simp [Ignored])
  | some b => decidable_of_iff (ignores b a) (by simp [Ignored])

/-- What comes through after `last` did. -/
def through : Option α → List α → List α
  | _, [] => []
  | last, a :: l =>
    if Ignored ignores last a then through last l else a :: through (some a) l

/-- The last item that has come through after the items of a list. -/
def latest (last : Option α) (l : List α) : Option α := (through ignores last l).getLast?.or last

variable {ignores}

/-- Of nothing nothing is let through. -/
@[simp] theorem through_nil (last : Option α) : through ignores last [] = [] := rfl

/-- The latest one is then the one before. -/
@[simp] theorem latest_nil (last : Option α) : latest ignores last [] = last := rfl

/-- An element that is ignored leaves the latest one. -/
theorem latest_of_ignored {last : Option α} {a : α} (h : Ignored ignores last a) (l : List α) :
    latest ignores last (a :: l) = latest ignores last l := by
  simp [latest, through, h]

/-- One that is not ignored becomes the latest one. -/
theorem latest_of_not_ignored {last : Option α} {a : α} (h : ¬ Ignored ignores last a)
    (l : List α) : latest ignores last (a :: l) = latest ignores (some a) l := by
  simp only [latest, through, h, if_false, List.getLast?_cons]
  cases (through ignores (some a) l).getLast? <;> rfl

/-- Of a concatenation, first what comes through of the first list does. -/
theorem through_append (last : Option α) (l m : List α) :
    through ignores last (l ++ m) =
      through ignores last l ++ through ignores (latest ignores last l) m := by
  induction l generalizing last with
  | nil => simp
  | cons a l ih =>
    by_cases h : Ignored ignores last a
    · rw [latest_of_ignored h]
      simp only [List.cons_append, through, h, if_true, ih]
    · rw [latest_of_not_ignored h]
      simp only [List.cons_append, through, h, if_false, ih]

/-- The latest one of two lists is found list by list. -/
theorem latest_append (last : Option α) (l m : List α) :
    latest ignores last (l ++ m) = latest ignores (latest ignores last l) m := by
  induction l generalizing last with
  | nil => simp
  | cons a l ih =>
    by_cases h : Ignored ignores last a
    · rw [latest_of_ignored h, List.cons_append, latest_of_ignored h, ih]
    · rw [latest_of_not_ignored h, List.cons_append, latest_of_not_ignored h, ih]

/-- After an item has come through, the items it ignores are dropped and the throttle
begins again. -/
theorem through_some (a : α) (l : List α) :
    through ignores (some a) l = through ignores none (l.dropWhile fun b => ignores a b) := by
  induction l with
  | nil => rfl
  | cons b l ih =>
    by_cases h : ignores a b
    · have hb : Ignored ignores (some a) b := ⟨a, rfl, h⟩
      simp [through, hb, h, ih]
    · have hb : ¬ Ignored ignores (some a) b := by simpa [Ignored] using h
      have hnone : ¬ Ignored ignores none b := by simp [Ignored]
      simp [through, hb, h, hnone]

end Through

variable {ignores}

/-- Something comes through of every list that is not empty. -/
theorem Throttled.ne_nil {l heads : List α} (h : Throttled ignores l heads) (hl : l ≠ []) :
    heads ≠ [] := by
  cases h with
  | nil => exact absurd rfl hl
  | burst _ _ _ => simp

/-- A list lets only one list through. -/
theorem Throttled.unique {l heads heads' : List α} (h : Throttled ignores l heads)
    (h' : Throttled ignores l heads') : heads = heads' := by
  classical
  suffices hthrough : ∀ {l heads : List α}, Throttled ignores l heads →
      heads = through ignores none l by
    rw [hthrough h, hthrough h']
  intro l heads h
  induction h with
  | nil => rfl
  | @burst a ignored rest heads hignored hrest _ ih =>
    have hnone : ¬ Ignored ignores none a := by simp [Ignored]
    have hdrop : (ignored ++ rest).dropWhile (fun b => decide (ignores a b)) = rest := by
      rw [List.dropWhile_append_of_pos fun b hb => by simpa using hignored b hb]
      cases rest with
      | nil => rfl
      | cons b rest =>
        have := hrest b rfl
        simp [this]
    simp only [through, hnone, if_false, through_some, hdrop, ih]

end Throttle
