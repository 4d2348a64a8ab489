import TTSignal.Text
import Mathlib.Data.FinEnum
import Mathlib.Data.List.TakeWhile

/-!
# URLs

`HttpConnector::ParseUrl` cuts a URL into the parts a request needs. Strings are strings
of bytes. The forms of a URL it is meant for are described beside it; the parser accepts
exactly these, and the text made of its results is read back to the same results.
-/

namespace Http

open Text

/-- `HttpUrlParts`. -/
structure HttpUrlParts where
  /-- `scheme`. -/
  scheme : List UInt8
  /-- `host`. -/
  host : List UInt8
  /-- `hostHeader`. -/
  hostHeader : List UInt8
  /-- `port`. -/
  port : UInt16
  /-- `target`. -/
  target : List UInt8
  /-- `tls`. -/
  tls : Bool
  deriving DecidableEq

/-- A byte that is neither a space nor a control character. -/
def IsSafeByte (c : UInt8) : Prop := ¬ (c ≤ 0x20 ∨ c = 0x7f)

instance (c : UInt8) : Decidable (IsSafeByte c) := inferInstanceAs (Decidable (¬ _))

/-- `_IsSafeRequestPart`. -/
def IsSafeRequestPart (s : List UInt8) : Prop := ∀ c ∈ s, IsSafeByte c

instance (s : List UInt8) : Decidable (IsSafeRequestPart s) := List.decidableBAll _ s

/-- The bytes that end an authority. -/
def EndsAuthority (c : UInt8) : Prop := c = '/'.toUInt8 ∨ c = '?'.toUInt8 ∨ c = '#'.toUInt8

instance (c : UInt8) : Decidable (EndsAuthority c) := inferInstanceAs (Decidable (_ ∨ _))

section ParseUrl

/-- The scheme of a URL in lower case, and what stands behind `://`. -/
def parseScheme (url : List UInt8) : Except (List UInt8) (List UInt8 × List UInt8) :=
  match cut (ofString "://") url with
  | none | some ([], _) => .error (ofString "URL 缺少 scheme，期望 http:// 或 https://")
  | some (scheme, rest) => .ok (lower scheme, rest)

/-- The default port of a scheme, and its `tls` flag. -/
def schemeDefaults (scheme : List UInt8) : Except (List UInt8) (UInt16 × Bool) :=
  if scheme = ofString "http" then .ok (80, false)
  else if scheme = ofString "https" then .ok (443, true)
  else .error (ofString "不支持的 scheme \"" ++ scheme ++ ofString "\"，只支持 http / https")

/-- Whether the host of an authority is in brackets, the host, and the text of the port. -/
def parseAuthority (authority : List UInt8) :
    Except (List UInt8) (Bool × List UInt8 × List UInt8) :=
  if authority = [] then .error (ofString "URL 缺少主机名")
  else if '@'.toUInt8 ∈ authority then
    .error (ofString "URL 里的 userinfo（user:pass@host）不受支持")
  else if authority.head? = some '['.toUInt8 then
    match cut [']'.toUInt8] authority.tail with
    | none | some ([], _) => .error (ofString "IPv6 字面量格式错误，期望 [addr] 或 [addr]:port")
    | some (hostPart, []) => .ok (true, hostPart, [])
    | some (hostPart, c :: portPart) =>
      if c = ':'.toUInt8 then .ok (true, hostPart, portPart)
      else .error (ofString "IPv6 字面量的方括号之后只能跟 :port")
  else
    match cut [':'.toUInt8] authority with
    | none => .ok (false, authority, [])
    | some (hostPart, portPart) =>
      if hostPart = [] ∨ ':'.toUInt8 ∈ portPart then
        .error (ofString "主机名非法；IPv6 字面量必须写成 [addr] 或 [addr]:port")
      else .ok (false, hostPart, portPart)

/-- The checks of the host. -/
def checkHost (hostPart : List UInt8) : Except (List UInt8) Unit :=
  if hostPart = [] ∨ ¬ IsSafeRequestPart hostPart then
    .error (ofString "主机名为空或含有非法字符")
  else .ok ()

/-- The port: the default one when its text is empty. -/
def parsePort (defaultPort : UInt16) (portPart : List UInt8) : Except (List UInt8) UInt16 :=
  if portPart = [] then .ok defaultPort
  else if 5 < portPart.length ∨ ¬ ∀ c ∈ portPart, IsDigit c then
    .error (ofString "端口号非法：\"" ++ portPart ++ ofString "\"")
  else if decimalValue portPart = 0 ∨ 65535 < decimalValue portPart then
    .error (ofString "端口号超出范围：\"" ++ portPart ++ ofString "\"")
  else .ok (UInt16.ofNat (decimalValue portPart))

/-- The host, in its brackets if it has them. -/
def bracket (bracketed : Bool) (hostPart : List UInt8) : List UInt8 :=
  if bracketed then '['.toUInt8 :: hostPart ++ [']'.toUInt8] else hostPart

/-- `hostForHeader`: the port is written only when it is not the default one. -/
def hostForHeader (bracketed : Bool) (hostPart : List UInt8) (port defaultPort : UInt16) :
    List UInt8 :=
  bracket bracketed hostPart ++
    if port = defaultPort then [] else ':'.toUInt8 :: decimal port.toNat

/-- The target before its check: the path and the query, with a `/` in front. -/
def rawTarget (rest : List UInt8) : List UInt8 :=
  match rest.takeWhile (· ≠ '#'.toUInt8) with
  | [] => ['/'.toUInt8]
  | c :: target => if c = '?'.toUInt8 then '/'.toUInt8 :: c :: target else c :: target

/-- The request target. -/
def parseTarget (rest : List UInt8) : Except (List UInt8) (List UInt8) :=
  if IsSafeRequestPart (rawTarget rest) then .ok (rawTarget rest)
  else .error (ofString "URL 的路径部分含有空白或控制字符，请先做 percent-encoding")

/-- `HttpConnector::ParseUrl`: the parts, or the text of the error. -/
def parseUrl (url : List UInt8) : Except (List UInt8) HttpUrlParts := do
  let (scheme, rest) ← parseScheme url
  let (defaultPort, tls) ← schemeDefaults scheme
  let (bracketed, hostPart, portPart) ← parseAuthority (rest.takeWhile (¬ EndsAuthority ·))
  checkHost hostPart
  let port ← parsePort defaultPort portPart
  let target ← parseTarget (rest.dropWhile (¬ EndsAuthority ·))
  return ⟨scheme, hostPart, hostForHeader bracketed hostPart port defaultPort, port, target, tls⟩

end ParseUrl

/-- The pieces of a URL: `scheme://host[:port][rest]`, the host possibly in brackets. -/
structure UrlForm where
  /-- The scheme. -/
  scheme : List UInt8
  /-- The host is in brackets. -/
  bracketed : Bool
  /-- The host. -/
  host : List UInt8
  /-- The text behind the colon, if there is one. -/
  port : Option (List UInt8)
  /-- The path, the query and the fragment. -/
  rest : List UInt8

/-- The text of a port with its colon. -/
def portSuffix : Option (List UInt8) → List UInt8
  | none => []
  | some p => ':'.toUInt8 :: p

/-- The text of a port: nothing, or one to five digits that denote a port. -/
def PortText (p : List UInt8) : Prop :=
  p = [] ∨ (p.length ≤ 5 ∧ (∀ c ∈ p, IsDigit c) ∧ 1 ≤ decimalValue p ∧ decimalValue p ≤ 65535)

namespace UrlForm

variable {f : UrlForm}

/-- The authority. -/
def authority (f : UrlForm) : List UInt8 := bracket f.bracketed f.host ++ portSuffix f.port

/-- The URL. -/
def text (f : UrlForm) : List UInt8 := f.scheme ++ ofString "://" ++ (f.authority ++ f.rest)

/-- The host is one that its form allows: in brackets without a closing bracket, otherwise
without a colon and not beginning with a bracket. -/
def HostForm (bracketed : Bool) (host : List UInt8) : Prop :=
  host ≠ [] ∧ (bracketed = true → ']'.toUInt8 ∉ host) ∧
    (bracketed = false → ':'.toUInt8 ∉ host ∧ host.head? ≠ some '['.toUInt8)

/-- The pieces make up a URL that a request can be sent to. -/
structure Valid (f : UrlForm) : Prop where
  /-- The scheme is `http` or `https`, in any case. -/
  scheme : lower f.scheme = ofString "http" ∨ lower f.scheme = ofString "https"
  /-- The host has one of the two forms. -/
  host : HostForm f.bracketed f.host
  /-- Its characters are safe. -/
  host_safe : IsSafeRequestPart f.host
  /-- The authority contains no `@` and nothing that ends it. -/
  authority : ∀ c ∈ f.authority, c ≠ '@'.toUInt8 ∧ ¬ EndsAuthority c
  /-- The text of the port is one. -/
  port : PortText (f.port.getD [])
  /-- What follows begins the path, the query or the fragment. -/
  rest : ∀ c, f.rest.head? = some c → EndsAuthority c
  /-- The path and the query have safe characters. -/
  target_safe : IsSafeRequestPart (f.rest.takeWhile (· ≠ '#'.toUInt8))

/-- The URL is an `https` one. -/
def tls (f : UrlForm) : Bool := lower f.scheme = ofString "https"

/-- The default port of the scheme. -/
def defaultPort (f : UrlForm) : UInt16 := if f.tls then 443 else 80

/-- The port. -/
def portNumber (f : UrlForm) : UInt16 :=
  if f.port.getD [] = [] then f.defaultPort else UInt16.ofNat (decimalValue (f.port.getD []))

/-- The parts of the URL. -/
def parts (f : UrlForm) : HttpUrlParts where
  scheme := lower f.scheme
  host := f.host
  hostHeader := hostForHeader f.bracketed f.host f.portNumber f.defaultPort
  port := f.portNumber
  target := rawTarget f.rest
  tls := f.tls

end UrlForm

section Stages

variable {ε β γ : Type} {x : Except ε β} {g : β → Except ε γ} {r : γ}
  {url scheme rest hostPart portPart target : List UInt8} {defaultPort port : UInt16}
  {bracketed tls : Bool}

/-- A sequence of two computations succeeds when both do. -/
theorem bind_eq_ok : x >>= g = .ok r ↔ ∃ b, x = .ok b ∧ g b = .ok r := by
  cases x with
  | error e => simp [bind, Except.bind]
  | ok b => simp [bind, Except.bind]

/-- A scheme is what stands before `://`. -/
theorem parseScheme_eq_ok : parseScheme url = .ok (scheme, rest) ↔
    ∃ raw, cut (ofString "://") url = some (raw, rest) ∧ raw ≠ [] ∧ scheme = lower raw := by
  unfold parseScheme
  split
  · rename_i h
    simp [h]
  · rename_i h
    simp only [h, reduceCtorEq, Option.some.injEq, Prod.mk.injEq, false_iff, not_exists]
    rintro raw ⟨⟨rfl, -⟩, hne, -⟩
    exact hne rfl
  · rename_i raw behind hne h
    simp only [h, Except.ok.injEq, Prod.mk.injEq, Option.some.injEq]
    constructor
    · rintro ⟨rfl, rfl⟩
      exact ⟨raw, ⟨rfl, rfl⟩, fun hnil => hne hnil, rfl⟩
    · rintro ⟨other, ⟨rfl, rfl⟩, -, rfl⟩
      exact ⟨rfl, rfl⟩

/-- The two schemes and their default ports. -/
theorem schemeDefaults_eq_ok : schemeDefaults scheme = .ok (defaultPort, tls) ↔
    (scheme = ofString "http" ∨ scheme = ofString "https") ∧
      tls = decide (scheme = ofString "https") ∧ defaultPort = if tls then 443 else 80 := by
  have hne : ofString "http" ≠ ofString "https" := by decide
  unfold schemeDefaults
  split
  · rename_i h
    subst h
    simp only [Except.ok.injEq, Prod.mk.injEq, true_or, true_and, hne, decide_false]
    constructor
    · rintro ⟨rfl, rfl⟩
      exact ⟨rfl, rfl⟩
    · rintro ⟨rfl, rfl⟩
      exact ⟨rfl, rfl⟩
  · split
    · rename_i h
      subst h
      simp only [Except.ok.injEq, Prod.mk.injEq, or_true, true_and, decide_true]
      constructor
      · rintro ⟨rfl, rfl⟩
        exact ⟨rfl, rfl⟩
      · rintro ⟨rfl, rfl⟩
        exact ⟨rfl, rfl⟩
    · rename_i h1 h2
      simp [h1, h2]

/-- A host passes the checks when it is safe and not empty. -/
theorem checkHost_eq_ok {u : Unit} : checkHost hostPart = .ok u ↔
    hostPart ≠ [] ∧ IsSafeRequestPart hostPart := by
  by_cases h : hostPart = [] ∨ ¬ IsSafeRequestPart hostPart
  · rw [checkHost, if_pos h]
    simp only [reduceCtorEq, false_iff]
    rintro ⟨hne, hsafe⟩
    rcases h with h | h
    · exact hne h
    · exact h hsafe
  · rw [checkHost, if_neg h]
    rw [not_or, not_not] at h
    exact ⟨fun _ => h, fun _ => rfl⟩

/-- The text of a port is read as its number. -/
theorem parsePort_eq_ok : parsePort defaultPort portPart = .ok port ↔
    PortText portPart ∧ port =
      if portPart = [] then defaultPort else UInt16.ofNat (decimalValue portPart) := by
  by_cases hnil : portPart = []
  · rw [parsePort, if_pos hnil, if_pos hnil, Except.ok.injEq]
    exact ⟨fun h => ⟨Or.inl hnil, h.symm⟩, fun h => h.2.symm⟩
  · rw [parsePort, if_neg hnil, if_neg hnil, PortText]
    simp only [hnil, false_or]
    by_cases hdigits : 5 < portPart.length ∨ ¬ ∀ c ∈ portPart, IsDigit c
    · rw [if_pos hdigits]
      simp only [reduceCtorEq, false_iff]
      rintro ⟨⟨hlen, hdigit, -⟩, -⟩
      rcases hdigits with h | h
      · omega
      · exact h hdigit
    · rw [if_neg hdigits]
      rw [not_or, not_not] at hdigits
      by_cases hrange : decimalValue portPart = 0 ∨ 65535 < decimalValue portPart
      · rw [if_pos hrange]
        simp only [reduceCtorEq, false_iff]
        rintro ⟨⟨-, -, hlow, hhigh⟩, -⟩
        omega
      · rw [if_neg hrange, Except.ok.injEq]
        exact ⟨fun h => ⟨⟨by omega, hdigits.2, by omega, by omega⟩, h.symm⟩, fun h => h.2.symm⟩

/-- The slash put in front of a target is safe. -/
theorem isSafeRequestPart_rawTarget : IsSafeRequestPart (rawTarget rest) ↔
    IsSafeRequestPart (rest.takeWhile (· ≠ '#'.toUInt8)) := by
  have hslash : IsSafeByte '/'.toUInt8 := by decide
  unfold rawTarget
  split
  · rename_i h
    rw [h]
    simp [IsSafeRequestPart, hslash]
  · rename_i c target h
    rw [h]
    split
    · simp [IsSafeRequestPart, hslash]
    · rfl

/-- The check of the target. -/
theorem parseTarget_eq_ok : parseTarget rest = .ok target ↔
    IsSafeRequestPart (rest.takeWhile (· ≠ '#'.toUInt8)) ∧ target = rawTarget rest := by
  unfold parseTarget
  rw [← isSafeRequestPart_rawTarget]
  split
  · rename_i h
    simp only [Except.ok.injEq, h, true_and]
    exact eq_comm
  · rename_i h
    simp [h]

end Stages

section Authority

variable {bracketed : Bool} {authority host p : List UInt8} {port : Option (List UInt8)}

/-- The port text has no colon when it is well formed. -/
theorem not_mem_of_portText (h : PortText p) : ':'.toUInt8 ∉ p := by
  rcases h with rfl | ⟨-, hdigit, -⟩
  · exact List.not_mem_nil
  · intro hmem
    exact absurd (hdigit _ hmem) (by decide)

/-- The pieces of an authority are found. -/
theorem parseAuthority_bracket (hhost : UrlForm.HostForm bracketed host)
    (hport : PortText (port.getD []))
    (hat : '@'.toUInt8 ∉ bracket bracketed host ++ portSuffix port) :
    parseAuthority (bracket bracketed host ++ portSuffix port) =
      .ok (bracketed, host, port.getD []) := by
  obtain ⟨hne, haddress, hname⟩ := hhost
  cases bracketed with
  | true =>
    have hclose := haddress rfl
    obtain ⟨c, host, rfl⟩ := List.exists_cons_of_ne_nil hne
    have hcut : cut [']'.toUInt8] ((c :: host) ++ ']'.toUInt8 :: portSuffix port) =
        some (c :: host, portSuffix port) := cut_singleton hclose
    have htext : bracket true (c :: host) ++ portSuffix port =
        '['.toUInt8 :: ((c :: host) ++ ']'.toUInt8 :: portSuffix port) := by
      simp [bracket]
    have hopen : ('['.toUInt8 :: ((c :: host) ++ ']'.toUInt8 :: portSuffix port)).head? =
        some '['.toUInt8 := rfl
    rw [htext] at hat ⊢
    rw [parseAuthority, if_neg (List.cons_ne_nil _ _), if_neg hat, if_pos hopen, List.tail_cons,
      hcut]
    cases port with
    | none => rfl
    | some p => rfl
  | false =>
    obtain ⟨hcolon, hhead⟩ := hname rfl
    obtain ⟨c, host, rfl⟩ := List.exists_cons_of_ne_nil hne
    have htext : bracket false (c :: host) ++ portSuffix port =
        c :: (host ++ portSuffix port) := rfl
    have hopen : (c :: (host ++ portSuffix port)).head? ≠ some '['.toUInt8 := hhead
    rw [htext] at hat ⊢
    rw [parseAuthority, if_neg (List.cons_ne_nil _ _), if_neg hat, if_neg hopen]
    cases port with
    | none =>
      have hcut : cut [':'.toUInt8] (c :: (host ++ portSuffix none)) = none := by
        rw [cut_eq_none, portSuffix, List.append_nil]
        exact hcolon
      rw [hcut, portSuffix, List.append_nil]
      rfl
    | some p =>
      have hcut : cut [':'.toUInt8] (c :: (host ++ portSuffix (some p))) =
          some (c :: host, p) := cut_singleton hcolon
      have hgo : ¬ (c :: host = [] ∨ ':'.toUInt8 ∈ p) := by
        rintro (h | h)
        · exact List.cons_ne_nil _ _ h
        · exact not_mem_of_portText hport h
      rw [hcut]
      exact if_neg hgo

/-- Every authority that is taken apart is made of such pieces. -/
theorem eq_bracket_of_parseAuthority (h : parseAuthority authority = .ok (bracketed, host, p))
    (hne : host ≠ []) :
    UrlForm.HostForm bracketed host ∧ '@'.toUInt8 ∉ authority ∧
      ∃ port : Option (List UInt8), port.getD [] = p ∧
        authority = bracket bracketed host ++ portSuffix port := by
  unfold parseAuthority at h
  split at h
  · exact absurd h (by simp)
  · rename_i hsome
    split at h
    · exact absurd h (by simp)
    · rename_i hat
      split at h
      · rename_i hopen
        have htext : authority = '['.toUInt8 :: authority.tail :=
          (List.cons_head?_tail hopen).symm
        split at h
        · exact absurd h (by simp)
        · exact absurd h (by simp)
        · rename_i hostPart hfirst hcut
          obtain ⟨htail, hclose⟩ := cut_eq_some.mp hcut
          simp only [Except.ok.injEq, Prod.mk.injEq] at h
          obtain ⟨rfl, rfl, rfl⟩ := h
          refine ⟨⟨hne, fun _ => hclose, by simp⟩, hat, none, rfl, ?_⟩
          rw [htext, htail]
          simp [bracket, portSuffix]
        · rename_i hostPart c portPart hfirst hcut
          obtain ⟨htail, hclose⟩ := cut_eq_some.mp hcut
          split at h
          · rename_i hcolon
            simp only [Except.ok.injEq, Prod.mk.injEq] at h
            obtain ⟨rfl, rfl, rfl⟩ := h
            refine ⟨⟨hne, fun _ => hclose, by simp⟩, hat, some portPart, rfl, ?_⟩
            rw [htext, htail, hcolon]
            simp [bracket, portSuffix]
          · exact absurd h (by simp)
      · rename_i hopen
        split at h
        · rename_i hcut
          rw [cut_eq_none] at hcut
          simp only [Except.ok.injEq, Prod.mk.injEq] at h
          obtain ⟨rfl, rfl, rfl⟩ := h
          refine ⟨⟨hne, by simp, fun _ => ⟨hcut, hopen⟩⟩, hat, none, rfl, ?_⟩
          simp [bracket, portSuffix]
        · rename_i hostPart portPart hcut
          obtain ⟨htext, hcolon⟩ := cut_eq_some.mp hcut
          split at h
          · exact absurd h (by simp)
          · simp only [Except.ok.injEq, Prod.mk.injEq] at h
            obtain ⟨rfl, rfl, rfl⟩ := h
            refine ⟨⟨hne, by simp, fun _ => ⟨hcolon, ?_⟩⟩, hat, some portPart, rfl, htext⟩
            rw [htext] at hopen
            obtain ⟨c, host, rfl⟩ := List.exists_cons_of_ne_nil hne
            exact hopen

end Authority

section Parts

variable {f : UrlForm} {url s t : List UInt8} {parts : HttpUrlParts}

/-- A scheme that is one of the two in lower case contains no colon and is not empty. -/
theorem scheme_of_lower (h : lower s = ofString "http" ∨ lower s = ofString "https") :
    ':'.toUInt8 ∉ s ∧ s ≠ [] := by
  constructor
  · intro hmem
    have hlower : ':'.toUInt8 ∈ lower s := List.mem_map.mpr ⟨':'.toUInt8, hmem, by decide⟩
    rcases h with h | h
    · rw [h] at hlower
      exact absurd hlower (by decide)
    · rw [h] at hlower
      exact absurd hlower (by decide)
  · rintro rfl
    rcases h with h | h
    · exact absurd h (by decide)
    · exact absurd h (by decide)

/-- An authority ends where something follows that ends it. -/
theorem takeWhile_authority (hauthority : ∀ c ∈ s, ¬ EndsAuthority c)
    (hrest : ∀ c, t.head? = some c → EndsAuthority c) :
    (s ++ t).takeWhile (¬ EndsAuthority ·) = s ∧ (s ++ t).dropWhile (¬ EndsAuthority ·) = t := by
  have hall : ∀ c ∈ s, decide (¬ EndsAuthority c) = true := fun c hc =>
    decide_eq_true (hauthority c hc)
  rw [List.takeWhile_append_of_pos hall, List.dropWhile_append_of_pos hall]
  cases t with
  | nil => simp
  | cons c t =>
    have hc : EndsAuthority c := hrest c rfl
    rw [List.takeWhile_cons_of_neg (by simpa using hc),
      List.dropWhile_cons_of_neg (by simpa using hc), List.append_nil]
    exact ⟨rfl, rfl⟩

/-- A URL of the described form is parsed to its parts. -/
theorem UrlForm.Valid.parseUrl_eq (h : f.Valid) : parseUrl f.text = .ok f.parts := by
  obtain ⟨hcolon, hne⟩ := scheme_of_lower h.scheme
  have hcut : cut (ofString "://") f.text = some (f.scheme, f.authority ++ f.rest) :=
    cut_append hcolon
  have hscheme : parseScheme f.text = .ok (lower f.scheme, f.authority ++ f.rest) :=
    parseScheme_eq_ok.mpr ⟨f.scheme, hcut, hne, rfl⟩
  have hdefaults : schemeDefaults (lower f.scheme) = .ok (f.defaultPort, f.tls) :=
    schemeDefaults_eq_ok.mpr ⟨h.scheme, rfl, rfl⟩
  obtain ⟨htake, hdrop⟩ := takeWhile_authority (fun c hc => (h.authority c hc).2) h.rest
  have hauthority : parseAuthority f.authority = .ok (f.bracketed, f.host, f.port.getD []) :=
    parseAuthority_bracket h.host h.port fun hat => (h.authority _ hat).1 rfl
  have hhost : checkHost f.host = .ok () := checkHost_eq_ok.mpr ⟨h.host.1, h.host_safe⟩
  have hport : parsePort f.defaultPort (f.port.getD []) = .ok f.portNumber :=
    parsePort_eq_ok.mpr ⟨h.port, rfl⟩
  have htarget : parseTarget f.rest = .ok (rawTarget f.rest) :=
    parseTarget_eq_ok.mpr ⟨h.target_safe, rfl⟩
  simp only [parseUrl, bind_eq_ok]
  refine ⟨(lower f.scheme, f.authority ++ f.rest), hscheme, (f.defaultPort, f.tls), hdefaults,
    (f.bracketed, f.host, f.port.getD []), ?_, (), hhost, f.portNumber, hport,
    rawTarget f.rest, ?_, rfl⟩
  · rw [htake]
    exact hauthority
  · rw [hdrop]
    exact htarget

/-- Every URL that is parsed has the described form. -/
theorem exists_form_of_parseUrl (h : parseUrl url = .ok parts) :
    ∃ f : UrlForm, f.Valid ∧ url = f.text ∧ parts = f.parts := by
  simp only [parseUrl, bind_eq_ok, Prod.exists] at h
  obtain ⟨scheme, behind, hscheme, defaultPort, tls, hdefaults, bracketed, host, portPart,
    hauthority, _, hhost, port, hport, target, htarget, hparts⟩ := h
  obtain ⟨raw, hcut, -, rfl⟩ := parseScheme_eq_ok.mp hscheme
  obtain ⟨hknown, rfl, rfl⟩ := schemeDefaults_eq_ok.mp hdefaults
  obtain ⟨hne, hsafe⟩ := checkHost_eq_ok.mp hhost
  obtain ⟨hform, hat, text, rfl, htext⟩ := eq_bracket_of_parseAuthority hauthority hne
  obtain ⟨hportText, rfl⟩ := parsePort_eq_ok.mp hport
  obtain ⟨htargetSafe, rfl⟩ := parseTarget_eq_ok.mp htarget
  refine ⟨⟨raw, bracketed, host, text, behind.dropWhile (¬ EndsAuthority ·)⟩,
    ⟨hknown, hform, hsafe, ?_, hportText, ?_, htargetSafe⟩, ?_, (Except.ok.inj hparts).symm⟩
  · intro c hc
    rw [UrlForm.authority, ← htext] at hc
    refine ⟨fun h => hat (h ▸ hc), ?_⟩
    simpa using List.mem_takeWhile_imp hc
  · intro c hc
    have hends := List.head?_dropWhile_not (fun c => decide (¬ EndsAuthority c)) behind
    rw [hc] at hends
    simpa using hends
  · rw [UrlForm.text, UrlForm.authority, ← htext, List.takeWhile_append_dropWhile]
    exact eq_append_of_cut hcut

/-- A URL is parsed exactly when it has the described form, to the parts of that form. -/
theorem parseUrl_eq_ok_iff : parseUrl url = .ok parts ↔
    ∃ f : UrlForm, f.Valid ∧ url = f.text ∧ parts = f.parts := by
  constructor
  · exact exists_form_of_parseUrl
  · rintro ⟨f, hf, rfl, rfl⟩
    exact hf.parseUrl_eq

end Parts

section Normal

variable {f : UrlForm} {url rest : List UInt8}

/-- A target contains no `#`. -/
theorem not_mem_rawTarget (rest : List UInt8) : '#'.toUInt8 ∉ rawTarget rest := by
  have htake : '#'.toUInt8 ∉ rest.takeWhile (· ≠ '#'.toUInt8) := fun hmem => by
    simpa using List.mem_takeWhile_imp hmem
  unfold rawTarget
  split
  · decide
  · rename_i c target h
    rw [h] at htake
    split
    · rw [List.mem_cons, not_or]
      exact ⟨by decide, htake⟩
    · exact htake

/-- Cutting off the fragment leaves a target as it is. -/
theorem takeWhile_rawTarget (rest : List UInt8) :
    (rawTarget rest).takeWhile (· ≠ '#'.toUInt8) = rawTarget rest := by
  rw [List.takeWhile_eq_self_iff]
  intro c hc
  refine decide_eq_true fun h => not_mem_rawTarget rest ?_
  rwa [← h]

/-- A target begins with a slash. -/
theorem head_rawTarget (hrest : ∀ c, rest.head? = some c → EndsAuthority c) :
    (rawTarget rest).head? = some '/'.toUInt8 := by
  unfold rawTarget
  split
  · rfl
  · rename_i c target h
    split
    · rfl
    · rename_i hquery
      cases rest with
      | nil => exact absurd h (by simp)
      | cons d rest =>
        have hd : d ≠ '#'.toUInt8 := fun hhash => by
          rw [hhash, List.takeWhile_cons_of_neg (by simp)] at h
          exact absurd h (by simp)
        rw [List.takeWhile_cons_of_pos (by simpa using hd), List.cons.injEq] at h
        have hends : EndsAuthority d := hrest d rfl
        rw [h.1] at hends hd
        rw [List.head?_cons]
        rcases hends with hslash | hmark | hhash
        · rw [hslash]
        · exact absurd hmark hquery
        · exact absurd hhash hd

/-- The target of a target is itself. -/
theorem rawTarget_rawTarget (hrest : ∀ c, rest.head? = some c → EndsAuthority c) :
    rawTarget (rawTarget rest) = rawTarget rest := by
  have hhead := head_rawTarget hrest
  rw [rawTarget, takeWhile_rawTarget]
  cases htarget : rawTarget rest with
  | nil =>
    rw [htarget] at hhead
    exact absurd hhead (by simp)
  | cons c target =>
    rw [htarget, List.head?_cons, Option.some.injEq] at hhead
    rw [hhead]
    rfl

namespace UrlForm

/-- The form of the text that is made of the parts. -/
def normal (f : UrlForm) : UrlForm where
  scheme := lower f.scheme
  bracketed := f.bracketed
  host := f.host
  port := if f.portNumber = f.defaultPort then none else some (decimal f.portNumber.toNat)
  rest := rawTarget f.rest

/-- The authority of the normal form is the value of the `Host` field. -/
theorem authority_normal (f : UrlForm) :
    f.normal.authority = hostForHeader f.bracketed f.host f.portNumber f.defaultPort := by
  unfold authority hostForHeader normal
  split
  · rfl
  · rfl

/-- The text of the normal form is made of the parts. -/
theorem text_normal (f : UrlForm) :
    f.normal.text = f.parts.scheme ++ ofString "://" ++ f.parts.hostHeader ++ f.parts.target := by
  rw [text, authority_normal, ← List.append_assoc]
  rfl

/-- The scheme of the normal form has the same default port. -/
theorem tls_normal (f : UrlForm) : f.normal.tls = f.tls := by
  simp only [tls, normal, lower_lower]

/-- The normal form has the same default port. -/
theorem defaultPort_normal (f : UrlForm) : f.normal.defaultPort = f.defaultPort := by
  rw [defaultPort, tls_normal, defaultPort]

/-- The normal form has the same port. -/
theorem portNumber_normal (f : UrlForm) : f.normal.portNumber = f.portNumber := by
  by_cases h : f.portNumber = f.defaultPort
  · have hport : f.normal.port = none := if_pos h
    rw [portNumber, hport, h, defaultPort_normal]
    rfl
  · have hport : f.normal.port = some (decimal f.portNumber.toNat) := if_neg h
    rw [portNumber, hport, Option.getD_some, if_neg (decimal_ne_nil _), decimalValue_decimal,
      UInt16.ofNat_toNat]

/-- The normal form has the same parts. -/
theorem parts_normal (hrest : ∀ c, f.rest.head? = some c → EndsAuthority c) :
    f.normal.parts = f.parts := by
  have htarget : rawTarget f.normal.rest = rawTarget f.rest := rawTarget_rawTarget hrest
  simp only [parts, portNumber_normal, defaultPort_normal, tls_normal, htarget]
  simp only [normal, lower_lower]

/-- A port other than the default one is written as its number. -/
theorem portText_decimal (hport : PortText (f.port.getD []))
    (hother : f.portNumber ≠ f.defaultPort) : PortText (decimal f.portNumber.toNat) := by
  have hlt := f.portNumber.toNat_lt
  refine Or.inr ⟨length_decimal_le (by omega) (by omega), fun c hc => isDigit_of_mem_decimal hc,
    ?_, by rw [decimalValue_decimal]; omega⟩
  rw [decimalValue_decimal]
  rcases hport with hnil | ⟨-, -, hlow, hhigh⟩
  · exact absurd (by rw [portNumber, if_pos hnil]) hother
  · rw [portNumber]
    split
    · rename_i hnil
      exact absurd (by rw [portNumber, if_pos hnil]) hother
    · rw [UInt16.toNat_ofNat']
      omega

/-- The normal form of a URL that a request can be sent to is one as well. -/
theorem Valid.normal (h : f.Valid) : f.normal.Valid where
  scheme := by
    change lower (lower f.scheme) = _ ∨ lower (lower f.scheme) = _
    rw [lower_lower]
    exact h.scheme
  host := h.host
  host_safe := h.host_safe
  authority := by
    intro c hc
    rw [authority_normal, hostForHeader, List.mem_append] at hc
    rcases hc with hc | hc
    · exact h.authority c (List.mem_append_left _ hc)
    · split at hc
      · exact absurd hc (by simp)
      · have hdigit : c = ':'.toUInt8 ∨ IsDigit c := by
          rcases List.mem_cons.mp hc with hc | hc
          · exact Or.inl hc
          · exact Or.inr (isDigit_of_mem_decimal hc)
        have hnot (d : UInt8) (hne : ':'.toUInt8 ≠ d) (hd : ¬ IsDigit d) : c ≠ d := by
          rintro rfl
          rcases hdigit with hc | hc
          · exact hne hc.symm
          · exact hd hc
        refine ⟨hnot _ (by decide) (by decide), ?_⟩
        rintro (hc | hc | hc)
        · exact hnot '/'.toUInt8 (by decide) (by decide) hc
        · exact hnot '?'.toUInt8 (by decide) (by decide) hc
        · exact hnot '#'.toUInt8 (by decide) (by decide) hc
  port := by
    by_cases hdefault : f.portNumber = f.defaultPort
    · have hport : f.normal.port = none := if_pos hdefault
      rw [hport]
      exact Or.inl rfl
    · have hport : f.normal.port = some (decimal f.portNumber.toNat) := if_neg hdefault
      rw [hport]
      exact portText_decimal h.port hdefault
  rest := by
    intro c hc
    have hhead : f.normal.rest.head? = some '/'.toUInt8 := head_rawTarget h.rest
    rw [hhead, Option.some.injEq] at hc
    exact Or.inl hc.symm
  target_safe := by
    have hsame : f.normal.rest.takeWhile (· ≠ '#'.toUInt8) = rawTarget f.rest :=
      takeWhile_rawTarget _
    rw [hsame, isSafeRequestPart_rawTarget]
    exact h.target_safe

end UrlForm

/-- A string is accepted exactly when it has the described form. The target it is given
begins with a slash and has no fragment, and the text made of its parts is parsed to the
same parts. -/
theorem parseUrl_exact (url : List UInt8) :
    ((∃ parts, parseUrl url = .ok parts) ↔ ∃ f : UrlForm, f.Valid ∧ url = f.text) ∧
      ∀ parts, parseUrl url = .ok parts →
        parts.target.head? = some '/'.toUInt8 ∧ '#'.toUInt8 ∉ parts.target ∧
          parseUrl (parts.scheme ++ ofString "://" ++ parts.hostHeader ++ parts.target) =
            .ok parts := by
  refine ⟨?_, ?_⟩
  · constructor
    · rintro ⟨parts, h⟩
      obtain ⟨f, hf, hurl, -⟩ := parseUrl_eq_ok_iff.mp h
      exact ⟨f, hf, hurl⟩
    · rintro ⟨f, hf, hurl⟩
      exact ⟨f.parts, parseUrl_eq_ok_iff.mpr ⟨f, hf, hurl, rfl⟩⟩
  · intro parts h
    obtain ⟨f, hf, -, rfl⟩ := parseUrl_eq_ok_iff.mp h
    refine ⟨head_rawTarget hf.rest, not_mem_rawTarget _, ?_⟩
    rw [← UrlForm.text_normal, hf.normal.parseUrl_eq, UrlForm.parts_normal hf.rest]

/-- A URL with an address in brackets, a port and a query without a path. -/
theorem parseUrl_address :
    parseUrl (ofString "HTTP://[::1]:08080?q#f") = .ok ⟨ofString "http", ofString "::1",
        ofString "[::1]:8080", 8080, ofString "/?q", false⟩ ∧
      parseUrl (ofString "http" ++ ofString "://" ++ ofString "[::1]:8080" ++ ofString "/?q") =
        .ok ⟨ofString "http", ofString "::1", ofString "[::1]:8080", 8080, ofString "/?q",
          false⟩ := by
  have h : parseUrl (ofString "HTTP://[::1]:08080?q#f") = .ok ⟨ofString "http",
      ofString "::1", ofString "[::1]:8080", 8080, ofString "/?q", false⟩ := by decide +kernel
  exact ⟨h, ((parseUrl_exact _).2 _ h).2.2⟩

end Normal

end Http
