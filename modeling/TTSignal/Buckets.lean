import Mathlib.Data.List.Nodup
import Mathlib.Logic.Function.Basic

/-!
# A map of lists

A map has a list for each key that it has. An entry is added at the end of its key's list and
taken from there, or removed wherever it stands; a key whose list becomes empty is dropped. So
the map is empty exactly when it has no entry.
-/

/-- A map of lists. -/
abbrev Buckets (κ α : Type*) := κ → Option (List α)

namespace Buckets

section Entries

variable {κ α : Type*} {m : Buckets κ α}

/-- The entries of a key. -/
def bucket (m : Buckets κ α) (k : κ) : List α := (m k).getD []

/-- No key has an empty list. -/
def Tidy (m : Buckets κ α) : Prop := ∀ k, m k ≠ some []

/-- The list of a key that has one. -/
theorem bucket_of_eq_some {k : κ} {entries : List α} (h : m k = some entries) :
    m.bucket k = entries := by
  rw [bucket, h, Option.getD_some]

/-- A tidy map has a key exactly when it has an entry for it. -/
theorem Tidy.eq_none_iff (h : m.Tidy) (k : κ) : m k = none ↔ m.bucket k = [] := by
  unfold bucket
  cases hk : m k with
  | none => simp
  | some entries =>
    have hne : entries ≠ [] := by
      rintro rfl
      exact h k hk
    simpa using hne

end Entries

variable {κ α : Type*} [DecidableEq κ]

/-- A key has a new list; the empty one drops it. -/
def store (m : Buckets κ α) (k : κ) (entries : List α) : Buckets κ α :=
  Function.update m k (if entries.isEmpty then none else some entries)

/-- An entry is added to a key, which is made if there is none. -/
def push (m : Buckets κ α) (k : κ) (a : α) : Buckets κ α :=
  Function.update m k (some (m.bucket k ++ [a]))

/-- The last entry of a key is taken, if there is one. -/
def pop (m : Buckets κ α) (k : κ) : Option α × Buckets κ α :=
  match m k with
  | none | some [] => (none, m)
  | some (a :: entries) => ((a :: entries).getLast?, m.store k (a :: entries).dropLast)

/-- An entry of a key is removed, if the key is there. -/
def remove [DecidableEq α] (m : Buckets κ α) (k : κ) (a : α) : Buckets κ α :=
  match m k with
  | none => m
  | some entries => m.store k (entries.erase a)

variable {m : Buckets κ α}

/-- The list of a key is stored. -/
@[simp] theorem bucket_store (m : Buckets κ α) (k : κ) (entries : List α) (l : κ) :
    (m.store k entries).bucket l = if l = k then entries else m.bucket l := by
  unfold bucket store
  rw [Function.update_apply]
  split
  · cases entries with
    | nil => rfl
    | cons a entries => rfl
  · rfl

/-- An entry is added to the list of its key. -/
@[simp] theorem bucket_push (m : Buckets κ α) (k : κ) (a : α) (l : κ) :
    (m.push k a).bucket l = if l = k then m.bucket k ++ [a] else m.bucket l := by
  rw [bucket, push, Function.update_apply]
  split
  · rfl
  · rfl

/-- The last entry of a key is the last of its list. -/
theorem pop_fst (m : Buckets κ α) (k : κ) : (m.pop k).1 = (m.bucket k).getLast? := by
  unfold pop bucket
  split
  · rename_i h
    rw [h]
    rfl
  · rename_i h
    rw [h]
    rfl
  · rename_i h
    rw [h]
    rfl

/-- The rest of the list stays. -/
@[simp] theorem bucket_pop (m : Buckets κ α) (k l : κ) :
    (m.pop k).2.bucket l = if l = k then (m.bucket k).dropLast else m.bucket l := by
  have hempty (h : m.bucket k = []) :
      m.bucket l = if l = k then (m.bucket k).dropLast else m.bucket l := by
    split
    · rename_i hl
      rw [hl, h]
      rfl
    · rfl
  unfold pop
  split
  · rename_i h
    exact hempty (by rw [bucket, h]; rfl)
  · rename_i h
    exact hempty (bucket_of_eq_some h)
  · rename_i h
    rw [bucket_store, bucket_of_eq_some h]

/-- The other entries of the list stay. -/
@[simp] theorem bucket_remove [DecidableEq α] (m : Buckets κ α) (k : κ) (a : α) (l : κ) :
    (m.remove k a).bucket l = if l = k then (m.bucket k).erase a else m.bucket l := by
  unfold remove
  split
  · rename_i h
    split
    · rename_i hl
      rw [hl, bucket, h]
      rfl
    · rfl
  · rename_i h
    rw [bucket_store, bucket_of_eq_some h]

/-- Storing a list leaves no empty one at its key. -/
theorem Tidy.store (h : m.Tidy) (k : κ) (entries : List α) : (m.store k entries).Tidy := by
  intro l
  unfold Buckets.store
  rw [Function.update_apply]
  split
  · cases entries with
    | nil => simp
    | cons a entries =>
      intro hnil
      cases hnil
  · exact h l

/-- Adding an entry leaves no empty list. -/
theorem Tidy.push (h : m.Tidy) (k : κ) (a : α) : (m.push k a).Tidy := by
  intro l
  unfold Buckets.push
  rw [Function.update_apply]
  split
  · intro hnil
    exact List.append_ne_nil_of_right_ne_nil _ (List.cons_ne_nil a []) (Option.some.inj hnil)
  · exact h l

/-- Taking an entry leaves no empty list. -/
theorem Tidy.pop (h : m.Tidy) (k : κ) : (m.pop k).2.Tidy := by
  unfold Buckets.pop
  split
  · exact h
  · exact h
  · exact h.store _ _

/-- Removing an entry leaves no empty list. -/
theorem Tidy.remove [DecidableEq α] (h : m.Tidy) (k : κ) (a : α) : (m.remove k a).Tidy := by
  unfold Buckets.remove
  split
  · exact h
  · exact h.store _ _

end Buckets
