import Mathlib.Data.List.Basic
import Mathlib.Tactic.Common

/-!
# Percent-encoding

A byte that is not safe is written as a percent sign and the two hexadecimal digits of its
value. The decoder takes a percent sign for itself where no two digits follow. As long as the
percent sign is not safe, encoding can be undone, and what is encoded has no other bytes than
safe ones, percent signs and digits.
-/

namespace Percent

/-- The percent sign. -/
def percent : UInt8 := '%'.toUInt8

/-- The upper-case hexadecimal digit of a number below sixteen. -/
def hexDigit (n : ℕ) : UInt8 := if n < 10 then UInt8.ofNat (48 + n) else UInt8.ofNat (55 + n)

/-- The value of a hexadecimal digit of either case. -/
def hexValue (c : UInt8) : Option ℕ :=
  if 48 ≤ c.toNat ∧ c.toNat ≤ 57 then some (c.toNat - 48)
  else if 97 ≤ c.toNat ∧ c.toNat ≤ 102 then some (c.toNat - 87)
  else if 65 ≤ c.toNat ∧ c.toNat ≤ 70 then some (c.toNat - 55)
  else none

/-- The byte is an upper-case hexadecimal digit. -/
def IsUpperHex (c : UInt8) : Prop :=
  48 ≤ c.toNat ∧ c.toNat ≤ 57 ∨ 65 ≤ c.toNat ∧ c.toNat ≤ 70

/-- The escape of a byte. -/
def escape (c : UInt8) : List UInt8 := [percent, hexDigit (c.toNat / 16), hexDigit (c.toNat % 16)]

/-- A text with its escapes undone. -/
def decode : List UInt8 → List UInt8
  | [] => []
  | [c] => [c]
  | [c, d] => [c, d]
  | c :: h :: l :: rest =>
    if c = percent then
      match hexValue h, hexValue l with
      | some high, some low => UInt8.ofNat (high * 16 + low) :: decode rest
      | _, _ => c :: decode (h :: l :: rest)
    else c :: decode (h :: l :: rest)

section Encode

variable (Safe : UInt8 → Prop) [DecidablePred Safe]

/-- A byte, or its escape. -/
def encodeByte (c : UInt8) : List UInt8 := if Safe c then [c] else escape c

/-- A text with its bytes escaped. -/
def encode (s : List UInt8) : List UInt8 := s.flatMap (encodeByte Safe)

end Encode

section Digits

variable {n : ℕ} {c : UInt8}

/-- The digit of a number as a number. -/
theorem toNat_hexDigit (hn : n < 16) :
    (hexDigit n).toNat = if n < 10 then 48 + n else 55 + n := by
  unfold hexDigit
  split
  · rw [UInt8.toNat_ofNat']
    omega
  · rw [UInt8.toNat_ofNat']
    omega

/-- A digit has its value. -/
theorem hexValue_hexDigit (hn : n < 16) : hexValue (hexDigit n) = some n := by
  have hdigit := toNat_hexDigit hn
  unfold hexValue
  split at hdigit
  · rw [hdigit, if_pos (by omega)]
    congr 1
    omega
  · rw [hdigit, if_neg (by omega), if_neg (by omega), if_pos (by omega)]
    congr 1
    omega

/-- A digit is in upper case. -/
theorem isUpperHex_hexDigit (hn : n < 16) : IsUpperHex (hexDigit n) := by
  have hdigit := toNat_hexDigit hn
  unfold IsUpperHex
  split at hdigit <;> omega

end Digits

section Decode

variable {c : UInt8} {s rest : List UInt8}

/-- What is no percent sign is taken for itself. -/
theorem decode_cons_of_ne (hc : c ≠ percent) (rest : List UInt8) :
    decode (c :: rest) = c :: decode rest := by
  match rest with
  | [] => rfl
  | [_] => rfl
  | _ :: _ :: _ => rw [decode, if_neg hc]

/-- An escape is read back. -/
theorem decode_escape_append (c : UInt8) (rest : List UInt8) :
    decode (escape c ++ rest) = c :: decode rest := by
  have hc := c.toNat_lt
  have hhigh := hexValue_hexDigit (n := c.toNat / 16) (by omega)
  have hlow := hexValue_hexDigit (n := c.toNat % 16) (by omega)
  have hbyte : UInt8.ofNat (c.toNat / 16 * 16 + c.toNat % 16) = c := by
    rw [Nat.div_add_mod', UInt8.ofNat_toNat]
  change decode (percent :: hexDigit _ :: hexDigit _ :: rest) = _
  rw [decode, if_pos rfl, hhigh, hlow]
  simp only [hbyte]

end Decode

section RoundTrip

variable {Safe : UInt8 → Prop} [DecidablePred Safe] {c : UInt8} {s rest : List UInt8}

/-- An encoded byte is read back. -/
theorem decode_encodeByte_append (hsafe : ¬ Safe percent) (c : UInt8) (rest : List UInt8) :
    decode (encodeByte Safe c ++ rest) = c :: decode rest := by
  unfold encodeByte
  split
  · rename_i hc
    refine decode_cons_of_ne ?_ rest
    rintro rfl
    exact hsafe hc
  · exact decode_escape_append c rest

/-- An encoded text is read back, whatever follows. -/
theorem decode_encode_append (hsafe : ¬ Safe percent) (s rest : List UInt8) :
    decode (encode Safe s ++ rest) = s ++ decode rest := by
  induction s with
  | nil => rfl
  | cons c s ih =>
    have hsplit : encode Safe (c :: s) = encodeByte Safe c ++ encode Safe s := List.flatMap_cons
    rw [hsplit, List.append_assoc, decode_encodeByte_append hsafe, ih]
    rfl

/-- An encoded text is read back. -/
theorem decode_encode (hsafe : ¬ Safe percent) (s : List UInt8) : decode (encode Safe s) = s := by
  have h := decode_encode_append hsafe s []
  simpa [decode] using h

/-- A byte is written as one byte or as three. -/
theorem length_encodeByte_le (Safe : UInt8 → Prop) [DecidablePred Safe] (c : UInt8) :
    (encodeByte Safe c).length ≤ 3 := by
  unfold encodeByte
  split
  · exact Nat.succ_le_succ (Nat.zero_le 2)
  · exact Nat.le_refl 3

/-- An encoding is at most three times as long. -/
theorem length_encode_le (Safe : UInt8 → Prop) [DecidablePred Safe] (s : List UInt8) :
    (encode Safe s).length ≤ 3 * s.length := by
  induction s with
  | nil => exact Nat.le_refl _
  | cons c s ih =>
    have hsplit : encode Safe (c :: s) = encodeByte Safe c ++ encode Safe s := List.flatMap_cons
    have hbyte := length_encodeByte_le Safe c
    rw [hsplit, List.length_append, List.length_cons]
    omega

/-- Safe bytes are written as they are. -/
theorem encode_of_safe (hs : ∀ c ∈ s, Safe c) : encode Safe s = s := by
  induction s with
  | nil => rfl
  | cons c s ih =>
    have hsplit : encode Safe (c :: s) = encodeByte Safe c ++ encode Safe s := List.flatMap_cons
    rw [hsplit, ih fun d hd => hs d (List.mem_cons_of_mem c hd), encodeByte,
      if_pos (hs c List.mem_cons_self)]
    rfl

/-- The bytes of an encoding. -/
theorem mem_encode (hc : c ∈ encode Safe s) : Safe c ∨ c = percent ∨ IsUpperHex c := by
  obtain ⟨d, -, hd⟩ := List.mem_flatMap.mp hc
  have hlt := d.toNat_lt
  unfold encodeByte at hd
  split at hd
  · rename_i hsafe
    exact .inl (List.mem_singleton.mp hd ▸ hsafe)
  · rcases List.mem_cons.mp hd with hd | hd
    · exact .inr (.inl hd)
    · rcases List.mem_cons.mp hd with hd | hd
      · exact .inr (.inr (hd ▸ isUpperHex_hexDigit (by omega)))
      · exact .inr (.inr (List.mem_singleton.mp hd ▸ isUpperHex_hexDigit (by omega)))

end RoundTrip

end Percent
