import TTSignal.Base64
import TTSignal.Cert.Verify
import Mathlib.Data.List.Forall2
import Mathlib.Data.List.TakeWhile

/-!
# The spellings of an SPKI pin

`CanonicalizeSpkiPin` is meant to bring every usual spelling of the base64 text of a digest to
one form. It removes white space at both ends and the prefix `sha256//` before it looks at the
single characters, so a `+` that has become a space is lost in front, and the first characters
of a digest may be taken for the prefix.
-/

namespace Cert

open Base64 (body encode)

/-- A SHA-256 digest. -/
def Digest : Type := { bytes : List UInt8 // bytes.length = 32 }

/-- The base64 text of a digest, as `EVP_EncodeBlock` writes it. -/
def Digest.base64 (h : Digest) : List UInt8 := encode h.val

/-- A line break or a tab. -/
def isBreak (b : UInt8) : Bool := b = 13 || b = 10 || b = 9

/-- What a character of the base64 text may have become. -/
def Variant (c v : UInt8) : Prop := v = c ∨ c = 43 ∧ (v = 45 ∨ v = 32) ∨ c = 47 ∧ v = 95

instance (c v : UInt8) : Decidable (Variant c v) := inferInstanceAs (Decidable (_ ∨ _))

/-- The parts of the spelling of a pin. -/
structure Spelling where
  /-- The white space in front. -/
  lead : List UInt8
  /-- The prefix `sha256//` is written. -/
  prefixed : Bool
  /-- The base64 text. -/
  text : List UInt8
  /-- The white space behind. -/
  trail : List UInt8

namespace Spelling

/-- The pin. -/
def pin (sp : Spelling) : List UInt8 :=
  sp.lead ++ (if sp.prefixed then pinPrefix else []) ++ sp.text ++ sp.trail

/-- The pin is a spelling of the digest: between white space and behind a possible prefix, the
characters of the digest in one of their variants, with breaks and perhaps padding. -/
structure Spells (sp : Spelling) (h : Digest) : Prop where
  /-- What stands in front is white space. -/
  lead : ∀ c ∈ sp.lead, isSpace c = true
  /-- What stands behind is white space. -/
  trail : ∀ c ∈ sp.trail, isSpace c = true
  /-- The text without its breaks. -/
  text : ∃ variants padding, sp.text.filter (!isBreak ·) = variants ++ padding ∧
    List.Forall₂ Variant (body h.val) variants ∧ (padding = [] ∨ padding = [Base64.pad])

/-- The text begins with a space that stands for a `+`. -/
def StartsWithSpace (sp : Spelling) : Prop := (sp.text.dropWhile isBreak).head? = some 32

instance (sp : Spelling) : Decidable sp.StartsWithSpace := inferInstanceAs (Decidable (_ = _))

/-- The digest's own characters begin with the prefix. -/
def LooksPrefixed (h : Digest) : Prop := pinPrefix <+: h.base64

instance (h : Digest) : Decidable (LooksPrefixed h) := inferInstanceAs (Decidable (_ <+: _))

/-- Nothing but white space and the prefix is cut off in front: a text without the prefix does
not begin with a space that stands for a `+`, and a digest whose characters begin with the
prefix is spelled without it and with just these characters. -/
def KeepsDigest (sp : Spelling) (h : Digest) : Prop :=
  (sp.prefixed = false → ¬ sp.StartsWithSpace) ∧
    (LooksPrefixed h → sp.prefixed = false ∧ pinPrefix <+: sp.text.dropWhile isBreak)

instance (sp : Spelling) (h : Digest) : Decidable (sp.KeepsDigest h) :=
  inferInstanceAs (Decidable (_ ∧ _))

end Spelling

/-! ### Single characters -/

variable {sp : Spelling} {h h' : Digest} {c v : UInt8} {s text variants padding : List UInt8}

/-- The characters of a base64 text are canonical. -/
theorem canonicalByte_char (i : Fin 64) : canonicalByte (Base64.char i) = [Base64.char i] := by
  revert i
  decide +kernel

/-- No character of a base64 text is white space, and one that may be spelled as a space is a
`+`. -/
theorem isSpace_char (i : Fin 64) : isSpace (Base64.char i) = false := by
  revert i
  decide +kernel

/-- The variants of a character have one canonical form. -/
theorem canonicalByte_variant (hc : c ∈ body s) (hv : Variant c v) : canonicalByte v = [c] := by
  have hplain := Base64.of_mem_body (P := fun c => canonicalByte c = [c]) canonicalByte_char hc
  rcases hv with rfl | ⟨rfl, rfl | rfl⟩ | ⟨rfl, rfl⟩
  · exact hplain
  · decide
  · decide
  · decide

/-- A break leaves nothing. -/
theorem canonicalByte_break (hc : isBreak c = true) : canonicalByte c = [] := by
  simp only [isBreak, Bool.or_eq_true, decide_eq_true_eq] at hc
  rcases hc with (rfl | rfl) | rfl
  · decide
  · decide
  · decide

/-- A break is white space. -/
theorem isSpace_of_isBreak (hc : isBreak c = true) : isSpace c = true := by
  simp only [isBreak, Bool.or_eq_true, decide_eq_true_eq] at hc
  rcases hc with (rfl | rfl) | rfl
  · decide
  · decide
  · decide

/-- A variant that is white space is a space for a `+`. -/
theorem eq_space_of_variant (hc : c ∈ body s) (hv : Variant c v) (hspace : isSpace v = true) :
    c = 43 ∧ v = 32 := by
  have hplain := Base64.of_mem_body (P := fun c => isSpace c = false) isSpace_char hc
  rcases hv with rfl | ⟨rfl, rfl | rfl⟩ | ⟨rfl, rfl⟩
  · rw [hplain] at hspace
    cases hspace
  · revert hspace
    decide
  · exact ⟨rfl, rfl⟩
  · revert hspace
    decide

/-! ### Whole texts -/

/-- Breaks do not matter. -/
theorem flatMap_filter_isBreak (text : List UInt8) :
    (text.filter (!isBreak ·)).flatMap canonicalByte = text.flatMap canonicalByte := by
  induction text with
  | nil => rfl
  | cons c text ih =>
    cases hc : isBreak c with
    | true =>
      rw [List.filter_cons_of_neg (by simp [hc]), List.flatMap_cons, canonicalByte_break hc, ih,
        List.nil_append]
    | false =>
      rw [List.filter_cons_of_pos (by simp [hc]), List.flatMap_cons, List.flatMap_cons, ih]

/-- Breaks alone leave nothing. -/
theorem flatMap_eq_nil_of_isBreak (htext : ∀ c ∈ text, isBreak c = true) :
    text.flatMap canonicalByte = [] :=
  List.flatMap_eq_nil_iff.mpr fun c hc => canonicalByte_break (htext c hc)

/-- The characters of a digest have one canonical form, however they are spelled. -/
theorem flatMap_variants {chars : List UInt8} (hchars : ∀ c ∈ chars, c ∈ body s)
    (hv : List.Forall₂ Variant chars variants) : variants.flatMap canonicalByte = chars := by
  induction hv with
  | nil => rfl
  | @cons c v chars variants hcv _ ih =>
    rw [List.flatMap_cons, canonicalByte_variant (hchars c List.mem_cons_self) hcv,
      ih fun d hd => hchars d (List.mem_cons_of_mem c hd), List.singleton_append]

/-- The canonical form of the text of a spelling. -/
theorem Spelling.Spells.flatMap_text (hs : sp.Spells h) :
    sp.text.flatMap canonicalByte = body h.val := by
  obtain ⟨variants, padding, htext, hvariants, hpadding⟩ := hs.text
  have hpad : padding.flatMap canonicalByte = [] := by
    rcases hpadding with rfl | rfl
    · rfl
    · decide
  rw [← flatMap_filter_isBreak, htext, List.flatMap_append, hpad, List.append_nil]
  exact flatMap_variants (fun _ hc => hc) hvariants

/-- The text of a digest has 43 characters before the padding. -/
theorem Digest.length_body (h : Digest) : (body h.val).length = 43 := by
  rw [Base64.length_body, h.property]

/-- The text of a digest ends with one padding character. -/
theorem Digest.base64_eq (h : Digest) : h.base64 = body h.val ++ [Base64.pad] := by
  rw [base64, encode, h.property]
  rfl

/-! ### Trimming -/

/-- White space is removed behind. -/
def rtrim (s : List UInt8) : List UInt8 := (s.reverse.dropWhile isSpace).reverse

/-- The prefix is removed. -/
def stripPrefix (s : List UInt8) : List UInt8 :=
  if pinPrefix.isPrefixOf s then s.drop pinPrefix.length else s

/-- The canonical form is made byte by byte of the pin without its spaces and prefix. -/
theorem canonicalizeSpkiPin_eq (pin : List UInt8) :
    canonicalizeSpkiPin pin = (stripPrefix (rtrim (pin.dropWhile isSpace))).flatMap canonicalByte :=
  rfl

/-- White space behind does not matter. -/
theorem rtrim_append_of_isSpace {s w : List UInt8} (hw : ∀ c ∈ w, isSpace c = true) :
    rtrim (s ++ w) = rtrim s := by
  have hdrop : w.reverse.dropWhile isSpace = [] :=
    List.dropWhile_eq_nil_iff.mpr fun c hc => hw c (List.mem_reverse.mp hc)
  rw [rtrim, List.reverse_append, List.dropWhile_append, hdrop]
  rfl

/-- What ends with another character is kept. -/
theorem rtrim_append {s w : List UInt8} {c : UInt8} (hc : isSpace c = false) :
    rtrim (s ++ [c] ++ w) = s ++ [c] ++ rtrim w := by
  have hkeep : (s ++ [c]).reverse.dropWhile isSpace = (s ++ [c]).reverse := by
    rw [List.reverse_append, List.reverse_singleton, List.singleton_append,
      List.dropWhile_cons_of_neg (by simp [hc])]
  rw [rtrim, List.reverse_append, List.dropWhile_append, rtrim]
  split
  · rename_i hempty
    rw [hkeep, List.reverse_reverse, List.isEmpty_iff.mp hempty, List.reverse_nil, List.append_nil]
  · rw [List.reverse_append, List.reverse_reverse]

/-- What is removed behind. -/
theorem exists_rtrim (s : List UInt8) :
    ∃ w, s = rtrim s ++ w ∧ ∀ c ∈ w, isSpace c = true := by
  refine ⟨(s.reverse.takeWhile isSpace).reverse, ?_, fun c hc => ?_⟩
  · have hsplit := congrArg List.reverse
      (List.takeWhile_append_dropWhile (p := isSpace) (l := s.reverse))
    rw [List.reverse_append, List.reverse_reverse] at hsplit
    exact hsplit.symm
  · exact List.mem_takeWhile_imp (List.mem_reverse.mp hc)

/-- White space at the ends of a pin is removed. -/
theorem rtrim_dropWhile {lead core trail : List UInt8} (hlead : ∀ c ∈ lead, isSpace c = true)
    (htrail : ∀ c ∈ trail, isSpace c = true) (hcore : ∃ c ∈ core, isSpace c = false) :
    rtrim ((lead ++ core ++ trail).dropWhile isSpace) = rtrim (core.dropWhile isSpace) := by
  have hdrop : lead.dropWhile isSpace = [] := List.dropWhile_eq_nil_iff.mpr hlead
  have hne : core.dropWhile isSpace ≠ [] := by
    intro hnil
    obtain ⟨c, hc, hspace⟩ := hcore
    rw [List.dropWhile_eq_nil_iff.mp hnil c hc] at hspace
    cases hspace
  have hempty : ¬ (core.dropWhile isSpace).isEmpty = true := by simpa using hne
  rw [List.append_assoc, List.dropWhile_append, hdrop, List.isEmpty_nil, if_pos rfl,
    List.dropWhile_append, if_neg hempty, rtrim_append_of_isSpace htrail]

/-- Only breaks are removed behind the text of a digest. -/
theorem Spelling.Spells.isBreak_of_suffix (hs : sp.Spells h) {front w : List UInt8}
    (hw : sp.text = front ++ w) (hspace : ∀ c ∈ w, isSpace c = true) :
    ∀ c ∈ w, isBreak c = true := by
  obtain ⟨variants, padding, htext, hvariants, hpadding⟩ := hs.text
  have hdata : w.filter (!isBreak ·) = [] := by
    by_contra hne
    have hlast : (variants ++ padding).getLast? = (w.filter (!isBreak ·)).getLast? := by
      rw [← htext, hw, List.filter_append, List.getLast?_append_of_ne_nil _ hne]
    obtain ⟨v, hv⟩ := Option.ne_none_iff_exists'.mp (mt List.getLast?_eq_none_iff.mp hne)
    have hvspace := hspace v (List.mem_filter.mp (List.mem_of_getLast? hv)).1
    rw [hv] at hlast
    rcases hpadding with rfl | rfl
    · -- the last character carries four bits and is no plus sign
      obtain ⟨front, n, hn, hbody⟩ := Base64.exists_getLast_body (s := h.val) (by rw [h.property])
      rw [hbody] at hvariants
      have hreverse := List.forall₂_reverse_iff.mpr hvariants
      rw [List.reverse_append, List.reverse_singleton, List.singleton_append] at hreverse
      obtain ⟨u, vs, hu, -, hvariants'⟩ := List.forall₂_cons_left_iff.mp hreverse
      rw [List.append_nil, List.getLast?_eq_head?_reverse, hvariants', List.head?_cons,
        Option.some.injEq] at hlast
      subst hlast
      have hmem : Base64.char (4 * n) ∈ body h.val := by rw [hbody]; simp
      have hplus := (eq_space_of_variant hmem hu hvspace).1
      have hall : ∀ i : Fin 16, Base64.char (4 * i) ≠ 43 := by decide +kernel
      exact hall ⟨n, hn⟩ hplus
    · rw [List.getLast?_concat, Option.some.injEq] at hlast
      subst hlast
      revert hvspace
      decide
  intro c hc
  by_contra hbreak
  have hmem : c ∈ w.filter (!isBreak ·) := List.mem_filter.mpr ⟨hc, by simpa using hbreak⟩
  rw [hdata] at hmem
  cases hmem

/-- What is removed behind the text of a digest does not matter. -/
theorem Spelling.Spells.flatMap_rtrim (hs : sp.Spells h) {front rest : List UInt8}
    (hrest : sp.text = front ++ rest) :
    (rtrim rest).flatMap canonicalByte = rest.flatMap canonicalByte := by
  obtain ⟨w, hw, hspace⟩ := exists_rtrim rest
  have hbreak : ∀ c ∈ w, isBreak c = true := by
    have hends : sp.text = (front ++ rtrim rest) ++ w := by
      rw [List.append_assoc, ← hw, hrest]
    exact hs.isBreak_of_suffix hends hspace
  conv_rhs => rw [hw, List.flatMap_append, flatMap_eq_nil_of_isBreak hbreak, List.append_nil]

/-! ### Canonical forms -/

/-- Removing the prefix removes its characters. -/
theorem flatMap_stripPrefix (s : List UInt8) :
    (stripPrefix s).flatMap canonicalByte =
      if pinPrefix <+: s then (s.flatMap canonicalByte).drop pinPrefix.length
      else s.flatMap canonicalByte := by
  unfold stripPrefix
  by_cases hhead : pinPrefix <+: s
  · obtain ⟨rest, rfl⟩ := hhead
    have hcanonical : pinPrefix.flatMap canonicalByte = pinPrefix := by decide
    rw [if_pos (List.isPrefixOf_iff_prefix.mpr (List.prefix_append _ _)),
      if_pos (List.prefix_append _ _), List.flatMap_append, hcanonical, List.drop_left,
      List.drop_left]
  · rw [if_neg (by simpa using hhead), if_neg hhead]

/-- The first character of a digest. -/
theorem Digest.exists_cons (h : Digest) : ∃ c rest, body h.val = c :: rest ∧ isSpace c = false := by
  cases hbody : body h.val with
  | nil =>
    have hlength := h.length_body
    rw [hbody] at hlength
    cases hlength
  | cons c rest =>
    have hmem : c ∈ body h.val := by simp [hbody]
    exact ⟨c, rest, rfl,
      Base64.of_mem_body (P := fun c => isSpace c = false) isSpace_char hmem⟩

/-- The canonical form of the plain text of a digest. -/
theorem canonicalizeSpkiPin_base64 (h : Digest) :
    canonicalizeSpkiPin h.base64 =
      if Spelling.LooksPrefixed h then (body h.val).drop pinPrefix.length else body h.val := by
  have hcanonical : h.base64.flatMap canonicalByte = body h.val := by
    have hself := flatMap_variants (s := h.val) (fun _ hc => hc)
      (List.forall₂_same.mpr fun c _ => Or.inl rfl)
    rw [h.base64_eq, List.flatMap_append, hself]
    exact List.append_nil _
  have htrim : rtrim (h.base64.dropWhile isSpace) = h.base64 := by
    obtain ⟨c, rest, hbody, hc⟩ := h.exists_cons
    have hdrop : h.base64.dropWhile isSpace = h.base64 := by
      rw [h.base64_eq, hbody, List.cons_append, List.dropWhile_cons_of_neg (by simp [hc])]
    have hpad : rtrim (body h.val ++ [Base64.pad] ++ []) = body h.val ++ [Base64.pad] ++ rtrim [] :=
      rtrim_append (by decide)
    rw [hdrop, h.base64_eq, ← List.append_nil (body h.val ++ [Base64.pad]), hpad]
    rfl
  rw [canonicalizeSpkiPin_eq, htrim, flatMap_stripPrefix, hcanonical]
  rfl

/-- A spelled digest has a character that is no white space. -/
theorem Spelling.Spells.exists_not_isSpace (hs : sp.Spells h) :
    ∃ c ∈ sp.text, isSpace c = false := by
  by_contra hnone
  have hspace : ∀ c ∈ sp.text, isSpace c = true := by simpa using hnone
  have hbreak := hs.isBreak_of_suffix (List.nil_append sp.text).symm hspace
  have hnil := hs.flatMap_text
  rw [flatMap_eq_nil_of_isBreak hbreak] at hnil
  have hlength := h.length_body
  rw [← hnil] at hlength
  cases hlength

/-- The canonical form of a spelling with the prefix. -/
theorem Spelling.Spells.canonicalize_prefixed (hs : sp.Spells h) (hfixed : sp.prefixed = true) :
    canonicalizeSpkiPin sp.pin = body h.val := by
  have hcore : ∃ c ∈ pinPrefix ++ sp.text, isSpace c = false :=
    ⟨115, by simp [pinPrefix], by decide⟩
  have hpin : sp.pin = sp.lead ++ (pinPrefix ++ sp.text) ++ sp.trail := by
    simp [pin, hfixed]
  have hkeep : (pinPrefix ++ sp.text).dropWhile isSpace = pinPrefix ++ sp.text :=
    List.dropWhile_cons_of_neg (by decide)
  have hsplit : rtrim (pinPrefix ++ sp.text) = pinPrefix ++ rtrim sp.text :=
    rtrim_append (s := pinPrefix.dropLast) (c := 47) (by decide)
  have hcanonical : pinPrefix.flatMap canonicalByte = pinPrefix := by decide
  rw [hpin, canonicalizeSpkiPin_eq, rtrim_dropWhile hs.lead hs.trail hcore, hkeep, hsplit,
    flatMap_stripPrefix, if_pos (List.prefix_append _ _), List.flatMap_append, hcanonical,
    List.drop_left, hs.flatMap_rtrim (List.nil_append sp.text).symm, hs.flatMap_text]

/-- The canonical form of a spelling without the prefix. -/
theorem Spelling.Spells.canonicalize_bare (hs : sp.Spells h) (hfixed : sp.prefixed = false) :
    canonicalizeSpkiPin sp.pin =
      if pinPrefix <+: sp.text.dropWhile isSpace then
        ((sp.text.dropWhile isSpace).flatMap canonicalByte).drop pinPrefix.length
      else (sp.text.dropWhile isSpace).flatMap canonicalByte := by
  have hpin : sp.pin = sp.lead ++ sp.text ++ sp.trail := by simp [pin, hfixed]
  have hrest := hs.flatMap_rtrim (List.takeWhile_append_dropWhile (p := isSpace)).symm
  -- trimming behind does not touch the prefix
  have hhead : pinPrefix <+: rtrim (sp.text.dropWhile isSpace) ↔
      pinPrefix <+: sp.text.dropWhile isSpace := by
    constructor
    · intro hshort
      obtain ⟨w, hw, -⟩ := exists_rtrim (sp.text.dropWhile isSpace)
      rw [hw]
      exact hshort.trans (List.prefix_append _ _)
    · rintro ⟨rest, hrest⟩
      have hsplit : rtrim (pinPrefix ++ rest) = pinPrefix ++ rtrim rest :=
        rtrim_append (s := pinPrefix.dropLast) (c := 47) (by decide)
      rw [← hrest, hsplit]
      exact List.prefix_append _ _
  rw [hpin, canonicalizeSpkiPin_eq, rtrim_dropWhile hs.lead hs.trail hs.exists_not_isSpace,
    flatMap_stripPrefix, hrest]
  simp only [hhead]

/-- The first character of the text that is no break: it is white space only if it stands for
a `+`. -/
theorem Spelling.Spells.exists_first (hs : sp.Spells h) :
    ∃ breaks c rest, sp.text = breaks ++ c :: rest ∧ (∀ b ∈ breaks, isBreak b = true) ∧
      isBreak c = false ∧ (isSpace c = true → c = 32) := by
  obtain ⟨d, hd, hspace⟩ := hs.exists_not_isSpace
  have hbreaks : ∀ b ∈ sp.text.takeWhile isBreak, isBreak b = true := fun b hb =>
    List.mem_takeWhile_imp hb
  have hsplit := (List.takeWhile_append_dropWhile (p := isBreak) (l := sp.text)).symm
  cases hrest : sp.text.dropWhile isBreak with
  | nil =>
    have hbreak := isSpace_of_isBreak (List.dropWhile_eq_nil_iff.mp hrest d hd)
    rw [hspace] at hbreak
    cases hbreak
  | cons c rest =>
    have hc : isBreak c = false := by
      have hhead := List.head_dropWhile_not isBreak (w := by rw [hrest]; simp)
      simpa [hrest] using hhead
    rw [hrest] at hsplit
    refine ⟨_, c, rest, hsplit, hbreaks, hc, fun hcspace => ?_⟩
    obtain ⟨variants, padding, htext, hvariants, -⟩ := hs.text
    obtain ⟨e, chars, hbody, -⟩ := h.exists_cons
    have hnone : (sp.text.takeWhile isBreak).filter (!isBreak ·) = [] :=
      List.filter_eq_nil_iff.mpr fun b hb => by simp [hbreaks b hb]
    rw [hbody] at hvariants
    obtain ⟨v, vs, hv, -, rfl⟩ := List.forall₂_cons_left_iff.mp hvariants
    rw [hsplit, List.filter_append, hnone, List.nil_append,
      List.filter_cons_of_pos (by simp [hc]), List.cons_append, List.cons.injEq] at htext
    rw [← htext.1] at hv
    have hmem : e ∈ body h.val := by simp [hbody]
    exact (eq_space_of_variant hmem hv hcspace).2

/-- A text that does not begin with a space for a `+` is cut at its breaks only. -/
theorem Spelling.Spells.dropWhile_isSpace (hs : sp.Spells h) (hstart : ¬ sp.StartsWithSpace) :
    sp.text.dropWhile isSpace = sp.text.dropWhile isBreak ∧
      (sp.text.dropWhile isBreak).flatMap canonicalByte = body h.val := by
  obtain ⟨breaks, c, rest, htext, hbreaks, hc, hspace⟩ := hs.exists_first
  have hdrop : sp.text.dropWhile isBreak = c :: rest := by
    rw [htext, List.dropWhile_append_of_pos hbreaks,
      List.dropWhile_cons_of_neg (by simp [hc])]
  have hcspace : ¬ isSpace c = true := by
    intro hcspace
    rw [StartsWithSpace, hdrop, hspace hcspace] at hstart
    exact hstart rfl
  have hflat := hs.flatMap_text
  rw [htext, List.flatMap_append, flatMap_eq_nil_of_isBreak hbreaks, List.nil_append] at hflat
  rw [hdrop]
  refine ⟨?_, hflat⟩
  rw [htext, List.dropWhile_append_of_pos fun b hb => isSpace_of_isBreak (hbreaks b hb),
    List.dropWhile_cons_of_neg hcspace]

/-- A space for a `+` is lost in front. -/
theorem Spelling.Spells.of_startsWithSpace (hs : sp.Spells h) (hstart : sp.StartsWithSpace) :
    (∃ rest, body h.val = 43 :: rest) ∧
      ((sp.text.dropWhile isSpace).flatMap canonicalByte).length < (body h.val).length := by
  obtain ⟨breaks, c, rest, htext, hbreaks, hc, -⟩ := hs.exists_first
  have hdrop : sp.text.dropWhile isBreak = c :: rest := by
    rw [htext, List.dropWhile_append_of_pos hbreaks,
      List.dropWhile_cons_of_neg (by simp [hc])]
  rw [StartsWithSpace, hdrop, List.head?_cons, Option.some.injEq] at hstart
  subst hstart
  have hflat := hs.flatMap_text
  have hplus : canonicalByte 32 = [43] := by decide
  rw [htext, List.flatMap_append, flatMap_eq_nil_of_isBreak hbreaks, List.nil_append,
    List.flatMap_cons, hplus, List.singleton_append] at hflat
  have hlost : sp.text.dropWhile isSpace = rest.dropWhile isSpace := by
    rw [htext, List.dropWhile_append_of_pos fun b hb => isSpace_of_isBreak (hbreaks b hb),
      List.dropWhile_cons_of_pos (by decide)]
  have hle : ((rest.dropWhile isSpace).flatMap canonicalByte).length ≤
      (rest.flatMap canonicalByte).length := by
    conv_rhs => rw [← List.takeWhile_append_dropWhile (p := isSpace) (l := rest)]
    rw [List.flatMap_append, List.length_append]
    omega
  refine ⟨⟨_, hflat.symm⟩, ?_⟩
  rw [hlost, ← hflat, List.length_cons]
  omega

/-! ### Exactness -/

/-- A digest that looks prefixed loses its first characters. -/
theorem Digest.body_of_looksPrefixed (hlooks : Spelling.LooksPrefixed h) :
    body h.val = pinPrefix ++ (body h.val).drop pinPrefix.length := by
  rw [Spelling.LooksPrefixed, h.base64_eq] at hlooks
  have hhead : pinPrefix <+: body h.val :=
    List.prefix_of_prefix_length_le hlooks (List.prefix_append _ _)
      (by rw [h.length_body]; decide)
  obtain ⟨rest, hrest⟩ := hhead
  rw [← hrest, List.drop_left]

/-- Two digests with one canonical form are the same. -/
theorem Digest.eq_of_canonical {drop : Prop} [Decidable drop]
    (heq : (if drop then (body h.val).drop pinPrefix.length else body h.val) =
      if Spelling.LooksPrefixed h' then (body h'.val).drop pinPrefix.length else body h'.val)
    (hdrop : drop → Spelling.LooksPrefixed h) : h' = h := by
  have hlen := congrArg List.length heq
  have hlength := h.length_body
  have hlength' := h'.length_body
  have hbody : body h.val = body h'.val := by
    split at heq
    · rename_i hd
      split at heq
      · rename_i hlooks
        rw [h.body_of_looksPrefixed (hdrop hd), h'.body_of_looksPrefixed hlooks, heq]
      · rename_i hlooks
        rw [if_pos hd, if_neg hlooks, List.length_drop] at hlen
        change _ - 8 = _ at hlen
        omega
    · rename_i hd
      split at heq
      · rename_i hlooks
        rw [if_neg hd, if_pos hlooks, List.length_drop] at hlen
        change _ = _ - 8 at hlen
        omega
      · exact heq
  exact Subtype.ext (Base64.body_injective (h'.property.trans h.property.symm) hbody.symm)

/-- A spelling of a digest is told from the text of every other digest, and is the same as that
of its own, exactly when nothing of the digest is cut off in front. -/
theorem canonicalizeSpkiPin_exact_iff (hs : sp.Spells h) :
    (∀ h' : Digest, canonicalizeSpkiPin sp.pin = canonicalizeSpkiPin h'.base64 ↔ h' = h) ↔
      sp.KeepsDigest h := by
  have hlength := h.length_body
  constructor
  · intro hexact
    have hself := (hexact h).mpr rfl
    rw [canonicalizeSpkiPin_base64] at hself
    cases hfixed : sp.prefixed with
    | true =>
      rw [hs.canonicalize_prefixed hfixed] at hself
      refine ⟨by simp [hfixed], fun hlooks => ?_⟩
      rw [if_pos hlooks] at hself
      have hlen := congrArg List.length hself
      rw [List.length_drop] at hlen
      change _ = _ - 8 at hlen
      omega
    | false =>
      rw [hs.canonicalize_bare hfixed] at hself
      have hstart : ¬ sp.StartsWithSpace := by
        intro hstart
        obtain ⟨⟨rest, hbody⟩, hlt⟩ := hs.of_startsWithSpace hstart
        have hlooks : ¬ Spelling.LooksPrefixed h := by
          rw [Spelling.LooksPrefixed, h.base64_eq, hbody]
          rintro ⟨other, hother⟩
          cases (List.cons.inj hother).1
        rw [if_neg hlooks] at hself
        have hlen := congrArg List.length hself
        split at hlen
        · rw [List.length_drop] at hlen
          omega
        · omega
      refine ⟨fun _ => hstart, fun hlooks => ⟨hfixed, ?_⟩⟩
      obtain ⟨hdrop, hflat⟩ := hs.dropWhile_isSpace hstart
      rw [hdrop, hflat, if_pos hlooks] at hself
      by_contra hno
      rw [if_neg hno] at hself
      have hlen := congrArg List.length hself
      rw [List.length_drop] at hlen
      change _ = _ - 8 at hlen
      omega
  · rintro ⟨hstart, hlooks⟩ h'
    rw [canonicalizeSpkiPin_base64]
    cases hfixed : sp.prefixed with
    | true =>
      have hplain : ¬ Spelling.LooksPrefixed h := by
        intro hl
        rw [(hlooks hl).1] at hfixed
        cases hfixed
      rw [hs.canonicalize_prefixed hfixed]
      constructor
      · intro heq
        have hcanonical : (if False then (body h.val).drop pinPrefix.length else body h.val) = _ :=
          (if_neg not_false).trans heq
        exact Digest.eq_of_canonical hcanonical False.elim
      · rintro rfl
        rw [if_neg hplain]
    | false =>
      obtain ⟨hdrop, hflat⟩ := hs.dropWhile_isSpace (hstart hfixed)
      rw [hs.canonicalize_bare hfixed, hdrop, hflat]
      -- the prefix stands in the text only if it stands in the digest
      have hiff : pinPrefix <+: sp.text.dropWhile isBreak ↔ Spelling.LooksPrefixed h := by
        constructor
        · rintro ⟨rest, hrest⟩
          have hcanonical : pinPrefix.flatMap canonicalByte = pinPrefix := by decide
          rw [← hrest, List.flatMap_append, hcanonical] at hflat
          rw [Spelling.LooksPrefixed, h.base64_eq, ← hflat, List.append_assoc]
          exact List.prefix_append _ _
        · intro hl
          exact (hlooks hl).2
      constructor
      · intro heq
        exact Digest.eq_of_canonical heq hiff.mp
      · rintro rfl
        simp only [hiff]

/-- The digest of zeros. -/
def zeroDigest : Digest := ⟨List.replicate 32 0, by decide⟩

/-- A pin with the prefix, white space, a line break and no padding. -/
def curlPin : Spelling := ⟨[32], true, [65, 10] ++ List.replicate 42 65, [13, 10]⟩

/-- Such a pin is exact. -/
theorem canonicalizeSpkiPin_exact_curlPin : curlPin.Spells zeroDigest ∧
    ∀ h' : Digest, canonicalizeSpkiPin curlPin.pin = canonicalizeSpkiPin h'.base64 ↔
      h' = zeroDigest := by
  have hspells : curlPin.Spells zeroDigest := by
    refine ⟨by decide +kernel, by decide +kernel, List.replicate 43 65, [], by decide, ?_, .inl rfl⟩
    have hbody : body zeroDigest.val = List.replicate 43 65 := by decide +kernel
    rw [hbody]
    exact List.forall₂_same.mpr fun c _ => .inl rfl
  exact ⟨hspells, (canonicalizeSpkiPin_exact_iff hspells).mpr (by decide)⟩

/-- A digest whose first character is a `+`. -/
def plusDigest : Digest := ⟨0xf8 :: List.replicate 31 0, by decide⟩

/-- Its text with a space for the `+`. -/
def spacePin : Spelling := ⟨[], false, 32 :: List.replicate 42 65, []⟩

/-- Such a pin does not even match its own digest. -/
theorem not_exact_spacePin : ¬ ∀ (sp : Spelling) (h : Digest), sp.Spells h →
    ∀ h' : Digest, canonicalizeSpkiPin sp.pin = canonicalizeSpkiPin h'.base64 ↔ h' = h := by
  intro hall
  have hspells : spacePin.Spells plusDigest := by
    refine ⟨by decide +kernel, by decide +kernel, 32 :: List.replicate 42 65, [], by decide, ?_,
      .inl rfl⟩
    have hbody : body plusDigest.val = 43 :: List.replicate 42 65 := by decide +kernel
    rw [hbody]
    exact .cons (.inr (.inl ⟨rfl, .inr rfl⟩)) (List.forall₂_same.mpr fun c _ => .inl rfl)
  have hself := (hall spacePin plusDigest hspells plusDigest).mpr rfl
  revert hself
  decide

end Cert
