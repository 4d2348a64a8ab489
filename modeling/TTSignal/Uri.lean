import TTSignal.Percent
import TTSignal.Text

/-!
# The URI codec

`EncodeURI` and `DecodeURI` move a pointer through a text that ends with a NUL and write into a
buffer whose size has been estimated before. Here an access outside the text or the buffer has
no result; the pool that provides the buffers is left out.
-/

namespace Uri

open Percent

/-- `is_uri_safe`. -/
def IsUriSafe (c : UInt8) : Prop :=
  '0'.toUInt8 ≤ c ∧ c ≤ '9'.toUInt8 ∨ 'A'.toUInt8 ≤ c ∧ c ≤ 'Z'.toUInt8 ∨
    'a'.toUInt8 ≤ c ∧ c ≤ 'z'.toUInt8 ∨ c ∈ Text.ofString "-_.!~*'()" ∨
      c ∈ Text.ofString ";,/?:@&=+$#"

instance (c : UInt8) : Decidable (IsUriSafe c) := inferInstanceAs (Decidable (_ ∨ _))

/-- `hex_to_int`. -/
def hexToInt (c : UInt8) : ℤ :=
  if '0'.toUInt8 ≤ c ∧ c ≤ '9'.toUInt8 then c.toNat - 48
  else if 'a'.toUInt8 ≤ c ∧ c ≤ 'f'.toUInt8 then c.toNat - 97 + 10
  else if 'A'.toUInt8 ≤ c ∧ c ≤ 'F'.toUInt8 then c.toNat - 65 + 10
  else -1

/-- A byte is written behind the others into a buffer of a given size. -/
def put (maxLen : ℕ) (out : List UInt8) (c : UInt8) : Option (List UInt8) :=
  if out.length < maxLen then some (out ++ [c]) else none

/-- The string that a buffer holds up to its first NUL. -/
def cString (out : List UInt8) : List UInt8 := out.takeWhile (· ≠ 0)

/-- The loop of `DecodeURI`, from what `p_in` points to. -/
def decodeLoop (maxLen : ℕ) : List UInt8 → List UInt8 → Option (List UInt8)
  | [], _ => none
  | c :: pIn, out =>
    if c = 0 then some out
    else if c = percent then
      match pIn with
      | [] => none
      | h :: pIn₁ =>
        if h = 0 then (put maxLen out c).bind (decodeLoop maxLen (h :: pIn₁))
        else
          match pIn₁ with
          | [] => none
          | l :: pIn₂ =>
            if l = 0 then (put maxLen out c).bind (decodeLoop maxLen (h :: l :: pIn₂))
            else if hexToInt h ≠ -1 ∧ hexToInt l ≠ -1 then
              (put maxLen out (UInt8.ofNat (hexToInt h * 16 + hexToInt l).toNat)).bind
                (decodeLoop maxLen pIn₂)
            else (put maxLen out c).bind (decodeLoop maxLen (h :: l :: pIn₂))
    else (put maxLen out c).bind (decodeLoop maxLen pIn)

section Bytes

variable {maxLen : ℕ} {c : UInt8} {out : List UInt8}

/-- A safe byte is an ASCII character. -/
theorem IsUriSafe.le (h : IsUriSafe c) : c ≤ 0x7F := by
  have hmarks : ∀ d ∈ Text.ofString "-_.!~*'()" ++ Text.ofString ";,/?:@&=+$#", d ≤ 0x7F := by
    decide +kernel
  rcases h with h | h | h | h | h
  · exact UInt8.le_trans h.2 (by decide)
  · exact UInt8.le_trans h.2 (by decide)
  · exact UInt8.le_trans h.2 (by decide)
  · exact hmarks c (List.mem_append_left _ h)
  · exact hmarks c (List.mem_append_right _ h)

end Bytes

section Encode

variable {maxLen : ℕ} {s out : List UInt8}

end Encode

section Decode

variable {maxLen : ℕ} {s out : List UInt8} {c h l : UInt8}

end Decode

end Uri
