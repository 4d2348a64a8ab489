import Mathlib.Data.List.TakeWhile
import Mathlib.Data.Nat.Digits.Lemmas

/-!
# Byte strings

Strings of bytes as programs handle them: the bytes of a literal, cutting at the first
occurrence of a separator, ASCII letter case, and numbers in decimal notation.
-/

namespace Text

/-- The bytes of a string literal. -/
def ofString (s : String) : List UInt8 := s.toByteArray.data.toList

section Cut

variable {α : Type} [DecidableEq α] {c : α} {pat s t before behind : List α}

/-- The first occurrence of a separator: what stands before it and what behind it. -/
def cut (pat : List α) : List α → Option (List α × List α)
  | [] => if pat = [] then some ([], []) else none
  | c :: s =>
    if pat <+: c :: s then some ([], (c :: s).drop pat.length)
    else (cut pat s).map fun r => (c :: r.1, r.2)

/-- The parts and the separator make up the string. -/
theorem eq_append_of_cut (h : cut pat s = some (before, behind)) :
    s = before ++ pat ++ behind := by
  induction s generalizing before with
  | nil =>
    rw [cut] at h
    split at h
    · rename_i hpat
      simp only [Option.some.injEq, Prod.mk.injEq] at h
      rw [← h.1, ← h.2, hpat]
      rfl
    · exact absurd h (by simp)
  | cons c s ih =>
    rw [cut] at h
    split at h
    · rename_i hpat
      simp only [Option.some.injEq, Prod.mk.injEq] at h
      obtain ⟨rest, hrest⟩ := hpat
      rw [← h.1, ← h.2, ← hrest, List.drop_left, List.nil_append]
    · obtain ⟨⟨first, second⟩, hr, hpair⟩ := Option.map_eq_some_iff.mp h
      simp only [Prod.mk.injEq] at hpair
      rw [hpair.2] at hr
      rw [← hpair.1, ih hr, List.cons_append, List.cons_append]

/-- A separator is found where its first element occurs for the first time. -/
theorem cut_append (hbefore : c ∉ before) :
    cut (c :: pat) (before ++ (c :: pat) ++ behind) = some (before, behind) := by
  induction before with
  | nil =>
    rw [List.nil_append, List.cons_append, cut, ← List.cons_append,
      if_pos (List.prefix_append _ _), List.drop_left]
  | cons d before ih =>
    rw [List.mem_cons, not_or] at hbefore
    have hno : ¬ c :: pat <+: d :: (before ++ (c :: pat) ++ behind) := by
      rintro ⟨rest, hrest⟩
      rw [List.cons_append, List.cons.injEq] at hrest
      exact hbefore.1 hrest.1
    rw [List.cons_append, List.cons_append, cut, if_neg hno, ih hbefore.2]
    rfl

/-- One element is found where it occurs for the first time. -/
theorem cut_singleton (hbefore : c ∉ before) :
    cut [c] (before ++ c :: behind) = some (before, behind) := by
  have h : cut [c] (before ++ [c] ++ behind) = some (before, behind) := cut_append hbefore
  rwa [List.append_assoc, List.singleton_append] at h

/-- An element is not found exactly when it does not occur. -/
theorem cut_eq_none : cut [c] s = none ↔ c ∉ s := by
  constructor
  · intro h hmem
    obtain ⟨before, behind, rfl, hbefore⟩ := List.eq_append_cons_of_mem hmem
    rw [cut_singleton hbefore] at h
    exact absurd h (by simp)
  · intro hmem
    rw [Option.eq_none_iff_forall_not_mem]
    rintro ⟨before, behind⟩ h
    rw [eq_append_of_cut h] at hmem
    simp at hmem

/-- Where an element is found, and what stands before it. -/
theorem cut_eq_some : cut [c] s = some (before, behind) ↔
    s = before ++ c :: behind ∧ c ∉ before := by
  constructor
  · intro h
    have hs := eq_append_of_cut h
    rw [List.append_assoc, List.singleton_append] at hs
    refine ⟨hs, fun hmem => ?_⟩
    obtain ⟨first, second, rfl, hfirst⟩ := List.eq_append_cons_of_mem hmem
    rw [hs, List.append_assoc, List.cons_append, cut_singleton hfirst] at h
    simp only [Option.some.injEq, Prod.mk.injEq] at h
    have hlen := congrArg List.length h.1
    rw [List.length_append, List.length_cons] at hlen
    omega
  · rintro ⟨rfl, hbefore⟩
    exact cut_singleton hbefore

/-- The last occurrence of an element: what stands before it and what behind it. -/
def rcut (c : α) (s : List α) : Option (List α × List α) :=
  (cut [c] s.reverse).map fun r => (r.2.reverse, r.1.reverse)

/-- An element is not found from behind exactly when it does not occur. -/
theorem rcut_eq_none : rcut c s = none ↔ c ∉ s := by
  rw [rcut, Option.map_eq_none_iff, cut_eq_none, List.mem_reverse]

/-- Where an element is found from behind, and what stands behind it. -/
theorem rcut_eq_some : rcut c s = some (before, behind) ↔
    s = before ++ c :: behind ∧ c ∉ behind := by
  rw [rcut, Option.map_eq_some_iff]
  constructor
  · rintro ⟨⟨first, second⟩, hcut, hpair⟩
    obtain ⟨hs, hfirst⟩ := cut_eq_some.mp hcut
    simp only [Prod.mk.injEq] at hpair
    obtain ⟨rfl, rfl⟩ := hpair
    refine ⟨?_, by simpa using hfirst⟩
    have hrev := congrArg List.reverse hs
    simpa using hrev
  · rintro ⟨rfl, hbehind⟩
    refine ⟨(behind.reverse, before.reverse), cut_eq_some.mpr ⟨?_, by simpa using hbehind⟩, ?_⟩
    · simp
    · simp

end Cut

section Case

/-- The lower-case form of an ASCII letter; other bytes stay. -/
def lowerByte (c : UInt8) : UInt8 :=
  if 'A'.toUInt8 ≤ c ∧ c ≤ 'Z'.toUInt8 then c - 'A'.toUInt8 + 'a'.toUInt8 else c

/-- The string in lower case. -/
def lower (s : List UInt8) : List UInt8 := s.map lowerByte

/-- An upper-case letter and its lower-case form. -/
theorem toNat_lowerByte_of_upper {c : UInt8} (h : 65 ≤ c.toNat ∧ c.toNat ≤ 90) :
    (lowerByte c).toNat = c.toNat + 32 := by
  have hupper : 'A'.toUInt8 ≤ c ∧ c ≤ 'Z'.toUInt8 := h
  rw [lowerByte, if_pos hupper, UInt8.toNat_add, UInt8.toNat_sub]
  change ((2 ^ 8 - 65 + c.toNat) % 2 ^ 8 + 97) % 2 ^ 8 = _
  omega

/-- Bytes that are not upper-case letters stay. -/
theorem lowerByte_of_not_upper {c : UInt8} (h : ¬ (65 ≤ c.toNat ∧ c.toNat ≤ 90)) :
    lowerByte c = c :=
  if_neg h

/-- Lower case is a normal form. -/
@[simp] theorem lowerByte_lowerByte (c : UInt8) : lowerByte (lowerByte c) = lowerByte c := by
  by_cases h : 65 ≤ c.toNat ∧ c.toNat ≤ 90
  · have hlower := toNat_lowerByte_of_upper h
    exact lowerByte_of_not_upper (by omega)
  · rw [lowerByte_of_not_upper h, lowerByte_of_not_upper h]

/-- Lower case is a normal form of strings as well. -/
@[simp] theorem lower_lower (s : List UInt8) : lower (lower s) = lower s := by
  simp [lower]

end Case

section Decimal

/-- The byte is a decimal digit. -/
def IsDigit (c : UInt8) : Prop := '0'.toUInt8 ≤ c ∧ c ≤ '9'.toUInt8

instance (c : UInt8) : Decidable (IsDigit c) := inferInstanceAs (Decidable (_ ∧ _))

/-- The digit of a number below ten. -/
def digit (d : ℕ) : UInt8 := UInt8.ofNat (48 + d)

/-- A number in decimal notation. -/
def decimal (n : ℕ) : List UInt8 :=
  if n = 0 then [digit 0] else (Nat.digits 10 n).reverse.map digit

/-- The number that a string of digits denotes. -/
def decimalValue (s : List UInt8) : ℕ := s.foldl (fun v c => v * 10 + (c.toNat - 48)) 0

/-- A digit as a number. -/
theorem toNat_digit {d : ℕ} (hd : d < 10) : (digit d).toNat = 48 + d := by
  rw [digit, UInt8.toNat_ofNat']
  omega

/-- A digit is a digit. -/
theorem isDigit_digit {d : ℕ} (hd : d < 10) : IsDigit (digit d) := by
  have h := toNat_digit hd
  constructor
  · rw [UInt8.le_iff_toNat_le, h]
    exact Nat.le_add_right 48 d
  · rw [UInt8.le_iff_toNat_le, h]
    change 48 + d ≤ 57
    omega

/-- Decimal notation has digits only. -/
theorem isDigit_of_mem_decimal {n : ℕ} {c : UInt8} (hc : c ∈ decimal n) : IsDigit c := by
  unfold decimal at hc
  split at hc
  · rw [List.mem_singleton.mp hc]
    exact isDigit_digit (by omega)
  · obtain ⟨d, hd, rfl⟩ := List.mem_map.mp hc
    exact isDigit_digit (Nat.digits_lt_base (by omega) (List.mem_reverse.mp hd))

/-- Decimal notation is not empty. -/
theorem decimal_ne_nil (n : ℕ) : decimal n ≠ [] := by
  unfold decimal
  split
  · exact List.cons_ne_nil _ _
  · rename_i hn
    simpa [Nat.digits_eq_nil_iff_eq_zero] using hn

/-- Decimal notation denotes the number. -/
@[simp] theorem decimalValue_decimal (n : ℕ) : decimalValue (decimal n) = n := by
  unfold decimal
  split
  · rename_i hn
    rw [hn]
    decide
  · have hsum (l : List ℕ) (hl : ∀ d ∈ l, d < 10) :
        decimalValue (l.reverse.map digit) = Nat.ofDigits 10 l := by
      induction l with
      | nil => rfl
      | cons d l ih =>
        have hd := toNat_digit (hl d (by simp))
        have hrest := ih fun e he => hl e (by simp [he])
        rw [decimalValue] at hrest ⊢
        rw [List.reverse_cons, List.map_append, List.foldl_append, hrest, Nat.ofDigits_cons]
        simp only [List.map_cons, List.map_nil, List.foldl_cons, List.foldl_nil, hd]
        omega
    rw [hsum _ fun d hd => Nat.digits_lt_base (by omega) hd, Nat.ofDigits_digits]

/-- Different numbers have different notations. -/
theorem decimal_injective : Function.Injective decimal := by
  intro m n h
  rw [← decimalValue_decimal m, h, decimalValue_decimal]

/-- The notation of a number below a power of ten has at most that many digits. -/
theorem length_decimal_le {n k : ℕ} (hk : 0 < k) (hn : n < 10 ^ k) : (decimal n).length ≤ k := by
  unfold decimal
  split
  · exact hk
  · rw [List.length_map, List.length_reverse]
    exact (Nat.digits_length_le_iff (by omega) n).mpr hn

end Decimal

section Scan

/-- `isspace`. -/
def IsSpace (c : UInt8) : Prop := c = ' '.toUInt8 ∨ 9 ≤ c ∧ c ≤ 13

instance (c : UInt8) : Decidable (IsSpace c) := inferInstanceAs (Decidable (_ ∨ _))

/-- The number that the digits at the start of a string denote. -/
def leadingValue (s : List UInt8) : ℕ := decimalValue (s.takeWhile (IsDigit ·))

/-- `strtol` with the base ten: white space, a sign and digits are read, and what does not fit
a `long` is cut off at its ends. -/
def strtol (s : List UInt8) : ℤ :=
  match s.dropWhile (IsSpace ·) with
  | [] => 0
  | c :: rest =>
    if c = '-'.toUInt8 then max (-2 ^ 63) (-leadingValue rest)
    else if c = '+'.toUInt8 then min (2 ^ 63 - 1) (leadingValue rest)
    else min (2 ^ 63 - 1) (leadingValue (c :: rest))

/-- `atoi`: the value of `strtol` as an `int`. -/
def atoi (s : List UInt8) : ℤ := (strtol s).bmod (2 ^ 32)

/-- A digit is neither white space nor a sign. -/
theorem IsDigit.ne {c : UInt8} (h : IsDigit c) :
    ¬ IsSpace c ∧ c ≠ '-'.toUInt8 ∧ c ≠ '+'.toUInt8 := by
  obtain ⟨hlow, hhigh⟩ := h
  rw [UInt8.le_iff_toNat_le] at hlow hhigh
  change 48 ≤ c.toNat at hlow
  change c.toNat ≤ 57 at hhigh
  refine ⟨?_, ?_, ?_⟩
  · rintro (rfl | ⟨-, hle⟩)
    · revert hlow
      decide
    · rw [UInt8.le_iff_toNat_le] at hle
      change c.toNat ≤ 13 at hle
      omega
  · rintro rfl
    revert hlow
    decide
  · rintro rfl
    revert hlow
    decide

/-- Digits that denote a small number are read as that number. -/
theorem atoi_of_digits {s : List UInt8} (hs : ∀ c ∈ s, IsDigit c) (hlt : decimalValue s < 2 ^ 31) :
    atoi s = decimalValue s := by
  have hstrtol : strtol s = decimalValue s := by
    cases s with
    | nil => rfl
    | cons c rest =>
      obtain ⟨hspace, hminus, hplus⟩ := (hs c List.mem_cons_self).ne
      have hall : (c :: rest).takeWhile (IsDigit ·) = c :: rest :=
        List.takeWhile_eq_self_iff.mpr fun d hd => by simpa using hs d hd
      rw [strtol, List.dropWhile_cons_of_neg (by simpa using hspace)]
      simp only [if_neg hminus, if_neg hplus, leadingValue, hall]
      omega
  rw [atoi, hstrtol]
  exact Int.bmod_eq_of_le (by omega) (by omega)

end Scan

end Text
