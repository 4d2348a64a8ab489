import Mathlib.Data.List.Basic
import Mathlib.Tactic.Common

/-!
# Reading a byte string

A computation that reads a byte string at positions it computes from what it has read may
read outside the string, and it may refuse the string. `Ensures` says that it does not read
outside and that what it returns, if it does not refuse, has some property; there is one
rule for every way to build such computations.
-/

namespace Reading

universe u

variable {ε : Type*} {α β : Type u}

/-- Why a reading computation returns nothing. -/
inductive Stop (ε : Type*) where
  /-- It has read outside the string. -/
  | outside
  /-- It refuses the string. -/
  | refused (e : ε)
  deriving DecidableEq

/-- The byte at a position. -/
def byteAt (data : List UInt8) (pos : ℕ) : Except (Stop ε) UInt8 :=
  match data[pos]? with
  | some b => .ok b
  | none => .error .outside

/-- So many bytes from a position on. -/
def bytesAt (data : List UInt8) (pos n : ℕ) : Except (Stop ε) (List UInt8) :=
  if pos + n ≤ data.length then .ok ((data.drop pos).take n) else .error .outside

/-- Nothing is read outside the string, and what is returned has the property. -/
def Ensures (x : Except (Stop ε) α) (Q : α → Prop) : Prop :=
  match x with
  | .ok a => Q a
  | .error .outside => False
  | .error (.refused _) => True

variable {x : Except (Stop ε) α} {P Q : α → Prop} {a : α} {e : ε}

/-- A value is ensured what holds of it. -/
@[simp] theorem ensures_ok : Ensures (.ok a : Except (Stop ε) α) Q ↔ Q a := Iff.rfl

/-- So is a pure one. -/
@[simp] theorem ensures_pure : Ensures (pure a : Except (Stop ε) α) Q ↔ Q a := Iff.rfl

/-- A refusal ensures everything. -/
@[simp] theorem ensures_refused : Ensures (.error (.refused e)) Q := trivial

/-- A weaker property. -/
theorem Ensures.mono (h : Ensures x P) (hPQ : ∀ a, P a → Q a) : Ensures x Q := by
  match x, h with
  | .ok a, h => exact hPQ a h
  | .error (.refused _), _ => trivial

/-- One computation after the other. -/
theorem Ensures.bind {f : α → Except (Stop ε) β} {R : β → Prop} (h : Ensures x P)
    (hf : ∀ a, P a → Ensures (f a) R) : Ensures (x >>= f) R := by
  match x, h with
  | .ok a, h => exact hf a h
  | .error (.refused _), _ => trivial

/-- A byte inside the string. -/
theorem ensures_byteAt {data : List UInt8} {pos : ℕ} (h : pos < data.length) :
    Ensures (byteAt data pos : Except (Stop ε) UInt8) fun b => data[pos]? = some b := by
  rw [byteAt, List.getElem?_eq_getElem h]
  rfl

/-- Bytes inside the string. -/
theorem ensures_bytesAt {data : List UInt8} {pos n : ℕ} (h : pos + n ≤ data.length) :
    Ensures (bytesAt data pos n : Except (Stop ε) (List UInt8))
      fun bytes => bytes = (data.drop pos).take n := by
  rw [bytesAt, if_pos h]
  rfl

/-- What is returned has the property. -/
theorem Ensures.of_eq_ok (h : Ensures x Q) (hx : x = .ok a) : Q a := by
  rw [hx] at h
  exact h

/-- Nothing is read outside the string. -/
theorem Ensures.ne_outside (h : Ensures x Q) : x ≠ .error .outside := by
  rintro rfl
  exact h

/-- Some bytes stand at a position of the string. -/
def Stands (data : List UInt8) (pos : ℕ) (bytes : List UInt8) : Prop :=
  ∃ before behind, data = before ++ bytes ++ behind ∧ before.length = pos

namespace Stands

variable {data bytes front rest : List UInt8} {pos : ℕ} {b : UInt8}

/-- The string stands at its beginning. -/
theorem refl (data : List UInt8) : Stands data 0 data := ⟨[], [], by simp, rfl⟩

/-- They lie inside the string. -/
theorem le_length (h : Stands data pos bytes) : pos + bytes.length ≤ data.length := by
  obtain ⟨before, behind, rfl, rfl⟩ := h
  rw [List.length_append, List.length_append]
  omega

/-- A first part of them stands at the same position. -/
theorem left (h : Stands data pos (front ++ rest)) : Stands data pos front := by
  obtain ⟨before, behind, rfl, rfl⟩ := h
  exact ⟨before, rest ++ behind, by simp, rfl⟩

/-- The rest stands behind it. -/
theorem right (h : Stands data pos (front ++ rest)) : Stands data (pos + front.length) rest := by
  obtain ⟨before, behind, rfl, rfl⟩ := h
  exact ⟨before ++ front, behind, by simp, List.length_append⟩

/-- The first of them. -/
theorem head (h : Stands data pos (b :: rest)) : Stands data pos [b] :=
  (show Stands data pos ([b] ++ rest) from h).left

/-- What follows the first of them. -/
theorem tail (h : Stands data pos (b :: rest)) : Stands data (pos + 1) rest :=
  (show Stands data pos ([b] ++ rest) from h).right

/-- One byte is read. -/
theorem byteAt (h : Stands data pos [b]) :
    (Reading.byteAt data pos : Except (Stop ε) UInt8) = .ok b := by
  obtain ⟨before, behind, rfl, rfl⟩ := h
  rw [Reading.byteAt, List.append_assoc, List.getElem?_append_right (Nat.le_refl _)]
  simp

/-- All of them are read. -/
theorem bytesAt (h : Stands data pos bytes) :
    (Reading.bytesAt data pos bytes.length : Except (Stop ε) (List UInt8)) = .ok bytes := by
  rw [Reading.bytesAt, if_pos h.le_length]
  obtain ⟨before, behind, rfl, rfl⟩ := h
  rw [List.append_assoc, List.drop_left, List.take_left]

end Stands

end Reading
