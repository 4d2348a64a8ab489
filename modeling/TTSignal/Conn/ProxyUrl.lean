import TTSignal.Text

/-!
# The URL of the proxy

`ParseProxyUrl` cuts the URL of a MASQUE proxy into a host and a port. It hands the text of
the port to `atoi` and does not look at what `atoi` leaves unread.
-/

namespace Conn

open Text

/-- `TTProxyType`. -/
inductive TTProxyType where
  | none
  | masque
  deriving DecidableEq, Repr

/-- What `ParseProxyUrl` hands out. -/
structure ParsedProxy where
  /-- `type_out`. -/
  type : TTProxyType
  /-- `host_out`. -/
  host : List UInt8
  /-- `port_out`. -/
  port : UInt16
  deriving DecidableEq, Repr

/-- The scheme and the rest of a URL; without `://` there is no scheme. -/
def splitScheme (url : List UInt8) : List UInt8 × List UInt8 :=
  (cut (ofString "://") url).getD ([], url)

/-- The authority of a URL: what stands behind the scheme and before the first `/`. -/
def proxyAuthority (url : List UInt8) : List UInt8 :=
  (splitScheme url).2.takeWhile (· ≠ '/'.toUInt8)

/-- The schemes of a MASQUE proxy. -/
def IsMasqueScheme (scheme : List UInt8) : Prop :=
  scheme = [] ∨ scheme = ofString "masque" ∨ scheme = ofString "connect-udp" ∨
    scheme = ofString "https" ∨ scheme = ofString "h3"

instance (scheme : List UInt8) : Decidable (IsMasqueScheme scheme) :=
  inferInstanceAs (Decidable (_ ∨ _))

/-- `(uint16_t)atoi`. -/
def portOf (text : List UInt8) : UInt16 := UInt16.ofInt (atoi text)

/-- The host and the port of an authority. -/
def splitHostPort (authority : List UInt8) : Option (List UInt8 × UInt16) :=
  if authority.head? = some '['.toUInt8 then
    match cut [']'.toUInt8] authority with
    | none => none
    | some (before, []) => some (before ++ [']'.toUInt8], 443)
    | some (before, c :: behind) =>
      some (before ++ [']'.toUInt8], if c = ':'.toUInt8 then portOf behind else 443)
  else
    match rcut ':'.toUInt8 authority with
    | none => some (authority, 443)
    | some (host, text) => some (host, portOf text)

/-- `ParseProxyUrl`. -/
def parseProxyUrl (url : List UInt8) : Option ParsedProxy :=
  if url = [] ∨ proxyAuthority url = [] then none
  else if ¬ IsMasqueScheme (lower (splitScheme url).1) then none
  else
    match splitHostPort (proxyAuthority url) with
    | none => none
    | some (host, port) => if host = [] ∨ port = 0 then none else some ⟨.masque, host, port⟩

/-- An authority as it is meant: a host, or an address in brackets, with or without a port. -/
structure AuthorityForm where
  /-- The host is an address in brackets. -/
  bracketed : Bool
  /-- The host, or the address. -/
  name : List UInt8
  /-- The text behind the colon, if there is one. -/
  portText : Option (List UInt8)

namespace AuthorityForm

/-- The host part. -/
def host (f : AuthorityForm) : List UInt8 :=
  if f.bracketed then '['.toUInt8 :: f.name ++ [']'.toUInt8] else f.name

/-- The authority. -/
def text (f : AuthorityForm) : List UInt8 :=
  f.host ++ (f.portText.elim [] fun p => ':'.toUInt8 :: p)

/-- The parts make up an authority: the address ends at the bracket, a host has no colon and
no bracket in front, and the text of the port is the numeral of a port. -/
structure Valid (f : AuthorityForm) : Prop where
  /-- An address in brackets. -/
  address : f.bracketed = true → ']'.toUInt8 ∉ f.name
  /-- A host. -/
  name : f.bracketed = false →
    f.name ≠ [] ∧ ':'.toUInt8 ∉ f.name ∧ f.name.head? ≠ some '['.toUInt8
  /-- The text of a port. -/
  port : ∀ p, f.portText = some p →
    p ≠ [] ∧ (∀ c ∈ p, IsDigit c) ∧ 1 ≤ decimalValue p ∧ decimalValue p ≤ 65535

/-- The port. -/
def port (f : AuthorityForm) : ℕ := f.portText.elim 443 decimalValue

end AuthorityForm

/-- A result is the host and the port that the URL names. -/
def Names (url : List UInt8) (r : ParsedProxy) : Prop :=
  ∃ f : AuthorityForm, f.Valid ∧ f.text = proxyAuthority url ∧ r.host = f.host ∧
    r.port.toNat = f.port

/-- A text that `atoi` and the conversion read to its end and without loss. -/
def IsReadWhole (text : List UInt8) : Prop := (∀ c ∈ text, IsDigit c) ∧ decimalValue text < 2 ^ 16

instance (text : List UInt8) : Decidable (IsReadWhole text) :=
  haveI : Decidable (∀ c ∈ text, IsDigit c) := List.decidableBAll _ text
  inferInstanceAs (Decidable (_ ∧ _))

/-- Behind the bracket of an address stands nothing, or a colon and a text that is read whole. -/
def EndsAddress : Option (List UInt8 × List UInt8) → Prop
  | none | some (_, []) => True
  | some (_, c :: text) => c = ':'.toUInt8 ∧ IsReadWhole text

instance : ∀ r, Decidable (EndsAddress r)
  | none | some (_, []) => .isTrue trivial
  | some (_, _ :: _) => inferInstanceAs (Decidable (_ ∧ _))

/-- Before the last colon stands no other one, and behind it a text that is read whole. -/
def EndsHost : Option (List UInt8 × List UInt8) → Prop
  | none => True
  | some (host, text) => ':'.toUInt8 ∉ host ∧ IsReadWhole text

instance : ∀ r, Decidable (EndsHost r)
  | none => .isTrue trivial
  | some _ => inferInstanceAs (Decidable (_ ∧ _))

/-- Nothing of an authority is left unread. -/
def IsReadThrough (authority : List UInt8) : Prop :=
  if authority.head? = some '['.toUInt8 then EndsAddress (cut [']'.toUInt8] authority)
  else EndsHost (rcut ':'.toUInt8 authority)

instance (authority : List UInt8) : Decidable (IsReadThrough authority) :=
  inferInstanceAs (Decidable (if authority.head? = some '['.toUInt8 then _ else _))

/-! ### What the code cuts off -/

/-- Digits that denote a port are read as that port. -/
theorem toNat_portOf {text : List UInt8} (h : IsReadWhole text) :
    (portOf text).toNat = decimalValue text := by
  obtain ⟨hdigits, hlt⟩ := h
  have hatoi := atoi_of_digits hdigits (by omega)
  rw [portOf, hatoi, UInt16.ofInt, UInt16.toNat_ofNat']
  omega

/-- A valid authority is read through. -/
theorem AuthorityForm.Valid.isReadThrough {f : AuthorityForm} (h : f.Valid) :
    IsReadThrough f.text := by
  have hport : ∀ p, f.portText = some p → IsReadWhole p := by
    intro p hp
    obtain ⟨-, hdigits, -, hle⟩ := h.port p hp
    exact ⟨hdigits, by omega⟩
  cases hb : f.bracketed with
  | true =>
    have hname := h.address hb
    have hbefore : ']'.toUInt8 ∉ '['.toUInt8 :: f.name := by
      rw [List.mem_cons, not_or]
      exact ⟨by decide, hname⟩
    have htext : f.text = ('['.toUInt8 :: f.name) ++ ']'.toUInt8 ::
        f.portText.elim [] fun p => ':'.toUInt8 :: p := by
      simp [AuthorityForm.text, AuthorityForm.host, hb]
    have hhead : f.text.head? = some '['.toUInt8 := by rw [htext]; rfl
    rw [IsReadThrough, if_pos hhead, htext, cut_singleton hbefore]
    cases hp : f.portText with
    | none => trivial
    | some p => exact ⟨rfl, hport p hp⟩
  | false =>
    obtain ⟨hne, hcolon, hbracket⟩ := h.name hb
    have htext : f.text = f.name ++ f.portText.elim [] fun p => ':'.toUInt8 :: p := by
      simp [AuthorityForm.text, AuthorityForm.host, hb]
    have hhead : f.text.head? ≠ some '['.toUInt8 := by
      rw [htext, List.head?_append_of_ne_nil _ hne]
      exact hbracket
    rw [IsReadThrough, if_neg hhead, htext]
    cases hp : f.portText with
    | none =>
      have hnone : rcut ':'.toUInt8 (f.name ++ []) = none :=
        rcut_eq_none.mpr (by simpa using hcolon)
      rw [Option.elim_none, hnone]
      trivial
    | some p =>
      have hp' := hport p hp
      have hpcolon : ':'.toUInt8 ∉ p := by
        intro hmem
        have := hp'.1 _ hmem
        revert this
        decide
      have hsome : rcut ':'.toUInt8 (f.name ++ ':'.toUInt8 :: p) = some (f.name, p) :=
        rcut_eq_some.mpr ⟨rfl, hpcolon⟩
      rw [Option.elim_some, hsome]
      exact ⟨hcolon, hp'⟩

/-- An authority that is read through is cut into the parts that it is made of. -/
theorem exists_form_of_isReadThrough {authority host : List UInt8} {port : UInt16}
    (hsplit : splitHostPort authority = some (host, port)) (hhost : host ≠ []) (hport : port ≠ 0)
    (h : IsReadThrough authority) :
    ∃ f : AuthorityForm, f.Valid ∧ f.text = authority ∧ host = f.host ∧ port.toNat = f.port := by
  -- a text that is read whole and gives a port is the numeral of that port
  have hnumeral : ∀ text, IsReadWhole text → portOf text ≠ 0 →
      text ≠ [] ∧ (∀ c ∈ text, IsDigit c) ∧ 1 ≤ decimalValue text ∧ decimalValue text ≤ 65535 := by
    intro text hwhole hne
    have hvalue := toNat_portOf hwhole
    have hpos : (portOf text).toNat ≠ 0 := fun hzero => hne (UInt16.toNat.inj hzero)
    refine ⟨?_, hwhole.1, by omega, by have := hwhole.2; omega⟩
    rintro rfl
    exact hpos hvalue
  unfold splitHostPort at hsplit
  unfold IsReadThrough at h
  split at hsplit
  · rename_i hhead
    rw [if_pos hhead] at h
    split at hsplit
    · cases hsplit
    · rename_i before hcut
      obtain ⟨rfl, hbefore⟩ := cut_eq_some.mp hcut
      simp only [Option.some.injEq, Prod.mk.injEq] at hsplit
      obtain ⟨rfl, rfl⟩ := hsplit
      cases before with
      | nil => cases Option.some.inj hhead
      | cons c name =>
        simp only [List.cons_append, List.head?_cons, Option.some.injEq] at hhead
        subst hhead
        refine ⟨⟨true, name, none⟩, ⟨?_, by simp, by simp⟩, by simp [AuthorityForm.text,
          AuthorityForm.host], by simp [AuthorityForm.host], rfl⟩
        intro _ hmem
        exact hbefore (List.mem_cons_of_mem _ hmem)
    · rename_i before c text hcut
      rw [hcut] at h
      obtain ⟨rfl, hwhole⟩ := h
      obtain ⟨rfl, hbefore⟩ := cut_eq_some.mp hcut
      simp only [if_true, Option.some.injEq, Prod.mk.injEq] at hsplit
      obtain ⟨rfl, rfl⟩ := hsplit
      cases before with
      | nil => cases Option.some.inj hhead
      | cons c name =>
        simp only [List.cons_append, List.head?_cons, Option.some.injEq] at hhead
        subst hhead
        refine ⟨⟨true, name, some text⟩, ⟨?_, by simp, ?_⟩, by simp [AuthorityForm.text,
          AuthorityForm.host], by simp [AuthorityForm.host], toNat_portOf hwhole⟩
        · intro _ hmem
          exact hbefore (List.mem_cons_of_mem _ hmem)
        · rintro p ⟨⟩
          exact hnumeral text hwhole hport
  · rename_i hhead
    rw [if_neg hhead] at h
    split at hsplit
    · rename_i hcut
      simp only [Option.some.injEq, Prod.mk.injEq] at hsplit
      obtain ⟨rfl, rfl⟩ := hsplit
      refine ⟨⟨false, authority, none⟩, ⟨by simp, ?_, by simp⟩, by simp [AuthorityForm.text,
        AuthorityForm.host], by simp [AuthorityForm.host], rfl⟩
      intro _
      exact ⟨hhost, rcut_eq_none.mp hcut, hhead⟩
    · rename_i name text hcut
      rw [hcut] at h
      obtain ⟨hcolon, hwhole⟩ := h
      obtain ⟨rfl, -⟩ := rcut_eq_some.mp hcut
      simp only [Option.some.injEq, Prod.mk.injEq] at hsplit
      obtain ⟨rfl, rfl⟩ := hsplit
      rw [List.head?_append_of_ne_nil _ hhost] at hhead
      refine ⟨⟨false, name, some text⟩, ⟨by simp, ?_, ?_⟩, by simp [AuthorityForm.text,
        AuthorityForm.host], by simp [AuthorityForm.host], toNat_portOf hwhole⟩
      · intro _
        exact ⟨hhost, hcolon, hhead⟩
      · rintro p ⟨⟩
        exact hnumeral text hwhole hport

/-! ### The result -/

/-- What an accepted URL is cut into. -/
theorem splitHostPort_of_accepted {url : List UInt8} {r : ParsedProxy}
    (h : parseProxyUrl url = some r) :
    splitHostPort (proxyAuthority url) = some (r.host, r.port) ∧ r.host ≠ [] ∧ r.port ≠ 0 := by
  unfold parseProxyUrl at h
  split at h
  · cases h
  split at h
  · cases h
  split at h
  · cases h
  · rename_i host port hsplit
    split at h
    · cases h
    · rename_i hne
      cases h
      exact ⟨hsplit, not_or.mp hne⟩

/-- The result of an accepted URL is what the URL names exactly when its authority is read
through. -/
theorem parseProxyUrl_names_iff {url : List UInt8} {r : ParsedProxy}
    (h : parseProxyUrl url = some r) : Names url r ↔ IsReadThrough (proxyAuthority url) := by
  obtain ⟨hsplit, hhost, hport⟩ := splitHostPort_of_accepted h
  constructor
  · rintro ⟨f, hvalid, htext, -, -⟩
    rw [← htext]
    exact hvalid.isReadThrough
  · intro hthrough
    exact exists_form_of_isReadThrough hsplit hhost hport hthrough

/-- A proxy with an address in brackets and a port. -/
theorem parseProxyUrl_names_bracketed :
    parseProxyUrl (ofString "Masque://[::1]:8443/x") = some ⟨.masque, ofString "[::1]", 8443⟩ ∧
      Names (ofString "Masque://[::1]:8443/x") ⟨.masque, ofString "[::1]", 8443⟩ := by
  have haccepted : parseProxyUrl (ofString "Masque://[::1]:8443/x") =
      some ⟨.masque, ofString "[::1]", 8443⟩ := by decide
  exact ⟨haccepted, (parseProxyUrl_names_iff haccepted).mpr (by decide)⟩

/-- An address without brackets and with nothing behind it is cut at its last colon. -/
theorem not_names_unbracketed : ¬ ∀ url r, parseProxyUrl url = some r → Names url r := by
  intro hall
  have haccepted : parseProxyUrl (ofString "https://2001:db8::1") =
      some ⟨.masque, ofString "2001:db8:", 1⟩ := by decide
  obtain ⟨f, hvalid, htext, -, -⟩ := hall _ _ haccepted
  have hthrough := hvalid.isReadThrough
  rw [htext] at hthrough
  revert hthrough
  decide

end Conn
