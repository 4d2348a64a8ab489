import Mathlib.Data.List.Basic
import Mathlib.Tactic.Common

/-!
# Base64

The standard encoding of byte strings as text: three bytes become four numbers of six bits,
each number a character, and a last group of one or two bytes is padded.
-/

namespace Base64

/-- The character of a number of six bits. -/
def char (n : ℕ) : UInt8 :=
  if n < 26 then UInt8.ofNat (65 + n)
  else if n < 52 then UInt8.ofNat (71 + n)
  else if n < 62 then UInt8.ofNat (n - 4)
  else if n = 62 then 43
  else 47

/-- The padding character. -/
def pad : UInt8 := 61

/-- The numbers of six bits that a byte string is cut into. -/
def sextets : List UInt8 → List ℕ
  | [] => []
  | [a] => [a.toNat / 4, a.toNat % 4 * 16]
  | [a, b] => [a.toNat / 4, a.toNat % 4 * 16 + b.toNat / 16, b.toNat % 16 * 4]
  | a :: b :: c :: rest =>
    (a.toNat / 4) :: (a.toNat % 4 * 16 + b.toNat / 16) :: (b.toNat % 16 * 4 + c.toNat / 64) ::
      (c.toNat % 64) :: sextets rest

/-- The text without its padding. -/
def body (s : List UInt8) : List UInt8 := (sextets s).map char

/-- The text. -/
def encode (s : List UInt8) : List UInt8 :=
  body s ++ List.replicate ((3 - s.length % 3) % 3) pad

variable {s t : List UInt8}

/-- Six bits are a number below 64. -/
theorem sextets_lt : ∀ {s : List UInt8}, ∀ n ∈ sextets s, n < 64
  | [], n, hn => by cases hn
  | [a], n, hn => by
    have ha := a.toNat_lt
    simp only [sextets, List.mem_cons, List.not_mem_nil, or_false] at hn
    omega
  | [a, b], n, hn => by
    have ha := a.toNat_lt
    have hb := b.toNat_lt
    simp only [sextets, List.mem_cons, List.not_mem_nil, or_false] at hn
    omega
  | a :: b :: c :: rest, n, hn => by
    have ha := a.toNat_lt
    have hb := b.toNat_lt
    have hc := c.toNat_lt
    simp only [sextets, List.mem_cons] at hn
    rcases hn with rfl | rfl | rfl | rfl | hn
    · omega
    · omega
    · omega
    · omega
    · exact sextets_lt n hn

/-- Each six bits of the input become one character. -/
@[simp] theorem length_sextets : ∀ s : List UInt8, (sextets s).length = (4 * s.length + 2) / 3
  | [] => rfl
  | [_] => by simp [sextets]
  | [_, _] => by simp [sextets]
  | a :: b :: c :: rest => by
    simp only [sextets, List.length_cons, length_sextets rest]
    omega

/-- The characters before the padding are as many as the sextets that are needed. -/
theorem length_body (s : List UInt8) : (body s).length = (4 * s.length + 2) / 3 := by
  rw [body, List.length_map, length_sextets]

/-- Different numbers have different characters. -/
theorem char_injective {m n : ℕ} (hm : m < 64) (hn : n < 64) (h : char m = char n) : m = n := by
  have hall : ∀ i j : Fin 64, char i = char j → i = j := by decide +kernel
  exact congrArg Fin.val (hall ⟨m, hm⟩ ⟨n, hn⟩ h)

/-- The bytes can be read off the six-bit numbers. -/
theorem sextets_injective :
    ∀ {s t : List UInt8}, s.length = t.length → sextets s = sextets t → s = t
  | [], [], _, _ => rfl
  | [a], [a'], _, h => by
    simp only [sextets, List.cons.injEq, and_true] at h
    have : a = a' := UInt8.toNat.inj (by omega)
    rw [this]
  | [a, b], [a', b'], _, h => by
    have hb := b.toNat_lt
    have hb' := b'.toNat_lt
    simp only [sextets, List.cons.injEq, and_true] at h
    have hfirst : a = a' := UInt8.toNat.inj (by omega)
    have hsecond : b = b' := UInt8.toNat.inj (by omega)
    rw [hfirst, hsecond]
  | a :: b :: c :: rest, a' :: b' :: c' :: rest', hlen, h => by
    have hb := b.toNat_lt
    have hb' := b'.toNat_lt
    have hc := c.toNat_lt
    have hc' := c'.toNat_lt
    simp only [sextets, List.cons.injEq] at h
    obtain ⟨h1, h2, h3, h4, hrest⟩ := h
    have hfirst : a = a' := UInt8.toNat.inj (by omega)
    have hsecond : b = b' := UInt8.toNat.inj (by omega)
    have hthird : c = c' := UInt8.toNat.inj (by omega)
    rw [hfirst, hsecond, hthird, sextets_injective (by simpa using hlen) hrest]

/-- Byte strings of one length with the same text are the same. -/
theorem body_injective (hlen : s.length = t.length) (h : body s = body t) : s = t := by
  apply sextets_injective hlen
  apply List.ext_getElem
  · rw [length_sextets, length_sextets, hlen]
  · intro i hi hi'
    have hchars : ((sextets s).map char)[i]? = ((sextets t).map char)[i]? :=
      congrArg (·[i]?) h
    rw [List.getElem?_map, List.getElem?_map, List.getElem?_eq_getElem hi,
      List.getElem?_eq_getElem hi'] at hchars
    exact char_injective (sextets_lt _ (List.getElem_mem hi)) (sextets_lt _ (List.getElem_mem hi'))
      (Option.some.inj hchars)

/-- A property of all characters of the alphabet holds of the characters of a text. -/
theorem of_mem_body {P : UInt8 → Prop} (hP : ∀ i : Fin 64, P (char i)) {c : UInt8}
    (hc : c ∈ body s) : P c := by
  obtain ⟨n, hn, rfl⟩ := List.mem_map.mp hc
  exact hP ⟨n, sextets_lt n hn⟩

/-- The last character of a text whose last group has two bytes carries four bits. -/
theorem exists_getLast_body : ∀ {s : List UInt8}, s.length % 3 = 2 →
    ∃ front, ∃ n < 16, body s = front ++ [char (4 * n)]
  | [], h => by simp at h
  | [_], h => by simp at h
  | [a, b], _ => by
    refine ⟨[char (a.toNat / 4), char (a.toNat % 4 * 16 + b.toNat / 16)], b.toNat % 16, by omega,
      ?_⟩
    rw [Nat.mul_comm 4]
    rfl
  | a :: b :: c :: rest, h => by
    simp only [List.length_cons] at h
    obtain ⟨front, n, hn, hbody⟩ := exists_getLast_body (s := rest) (by omega)
    refine ⟨char (a.toNat / 4) :: char (a.toNat % 4 * 16 + b.toNat / 16) ::
      char (b.toNat % 16 * 4 + c.toNat / 64) :: char (c.toNat % 64) :: front, n, hn, ?_⟩
    rw [List.cons_append, List.cons_append, List.cons_append, List.cons_append, ← hbody]
    rfl

end Base64
