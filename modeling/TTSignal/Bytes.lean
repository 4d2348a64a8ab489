import Mathlib.Data.List.Basic
import Mathlib.Tactic.Ring
import Mathlib.Tactic.Linarith
import Mathlib.Tactic.Positivity

/-!
# Big-endian byte strings

Fixed-width big-endian encodings of natural numbers, and the two round trips that
make the encoding of a given width a bijection onto byte strings of that length.
-/

namespace Bytes

/-- The `width` low-order base-256 digits of a number, most significant first. -/
def beBytes : ℕ → ℕ → List UInt8
  | 0, _ => []
  | width + 1, n => UInt8.ofNat (n / 256 ^ width) :: beBytes width n

/-- The number a byte string denotes in base 256, most significant digit first. -/
def beValue (bytes : List UInt8) : ℕ := bytes.foldl (fun acc b => 256 * acc + b.toNat) 0

/-- An encoding has exactly the requested number of bytes. -/
@[simp] theorem length_beBytes (width n : ℕ) : (beBytes width n).length = width := by
  induction width with
  | zero => rfl
  | succ width ih => simp [beBytes, ih]

/-- Accumulator form of the value of a byte string. -/
theorem foldl_beValue (bytes : List UInt8) (start : ℕ) :
    bytes.foldl (fun acc b => 256 * acc + b.toNat) start =
      start * 256 ^ bytes.length + beValue bytes := by
  induction bytes generalizing start with
  | nil => simp [beValue]
  | cons b bytes ih =>
    simp only [List.foldl_cons, List.length_cons, beValue, Nat.mul_zero, Nat.zero_add]
    rw [ih (256 * start + b.toNat), ih b.toNat]
    ring

/-- The leading byte carries the highest power of the base. -/
theorem beValue_cons (b : UInt8) (bytes : List UInt8) :
    beValue (b :: bytes) = b.toNat * 256 ^ bytes.length + beValue bytes := by
  simp only [beValue, List.foldl_cons, Nat.mul_zero, Nat.zero_add]
  exact foldl_beValue bytes b.toNat

/-- A byte string denotes a number below the range of its length. -/
theorem beValue_lt (bytes : List UInt8) : beValue bytes < 256 ^ bytes.length := by
  induction bytes with
  | nil => simp [beValue]
  | cons b bytes ih =>
    have hb : b.toNat < 256 := b.toNat_lt
    rw [beValue_cons, List.length_cons, pow_succ]
    nlinarith

/-- Decoding an encoding returns the number reduced to the width. -/
theorem beValue_beBytes (width n : ℕ) : beValue (beBytes width n) = n % 256 ^ width := by
  induction width with
  | zero => simp [beBytes, beValue, Nat.mod_one]
  | succ width ih =>
    have hbase : (2 : ℕ) ^ 8 = 256 := by norm_num
    rw [beBytes, beValue_cons, length_beBytes, ih, UInt8.toNat_ofNat', hbase, pow_succ,
      Nat.mod_mul, mul_comm, Nat.add_comm]

end Bytes
