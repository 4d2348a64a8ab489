import TTSignal.Json.Value
import Mathlib.Data.List.Basic

/-!
# The JSON reader

`Json::Reader` reads a document token by token and leaves what it has found in a value, also
when it gives up half-way. Here the place it has come to is the rest of the document. The
comments that it attaches to values and the list of its errors, which nothing below reads,
are left out. Values nest as deep as the document has bytes, so the functions that read them
take a bound of steps, and a bound that is always large enough is given to them.
-/

namespace Json

/-- `Reader::TokenType`. -/
inductive TokenType where
  | endOfStream
  | objectBegin
  | objectEnd
  | arrayBegin
  | arrayEnd
  | string
  | number
  | true
  | false
  | null
  | arraySeparator
  | memberSeparator
  | comment
  | error
  deriving DecidableEq, Repr

/-- `Reader::Token`: its type and the bytes from `start_` to `end_`. -/
structure Token where
  /-- `type_`. -/
  type : TokenType
  /-- The bytes of the token. -/
  text : List UInt8

/-- What the reader relies on. -/
structure ReaderLib where
  /-- `sscanf` with `%lf`, if it assigns a value. -/
  scanDouble : List UInt8 → Option Float
  /-- The byte behind the document, which `readArray` looks at. -/
  behind : UInt8

namespace Reader

/-- A double quote. -/
def quote : UInt8 := 34

/-- A backslash. -/
def backslash : UInt8 := 92

/-- The bytes that `skipSpaces` skips. -/
def isSpace (c : UInt8) : Bool := c = 32 || c = 9 || c = 13 || c = 10

/-- `skipSpaces`. -/
def skipSpaces (current : List UInt8) : List UInt8 := current.dropWhile isSpace

/-- `match`: a pattern is read if the document goes on with it. -/
def matchText (pattern current : List UInt8) : Bool × List UInt8 :=
  if pattern.isPrefixOf current then (true, current.drop pattern.length) else (false, current)

/-- `readString`, behind the opening quote. -/
def readString : List UInt8 → Bool × List UInt8
  | [] => (false, [])
  | [c] => (c = quote, [])
  | c :: d :: rest =>
    if c = backslash then readString rest
    else if c = quote then (true, d :: rest)
    else readString (d :: rest)

/-- `readCStyleComment`. At the end of the document the byte behind it does not matter. -/
def readCStyleComment : List UInt8 → Bool × List UInt8
  | [] => (false, [])
  | [_] => (false, [])
  | c :: d :: rest =>
    if c = '*'.toUInt8 ∧ d = '/'.toUInt8 then (true, rest) else readCStyleComment (d :: rest)

/-- `readCppStyleComment`. -/
def readCppStyleComment : List UInt8 → List UInt8
  | [] => []
  | c :: rest => if c = 13 ∨ c = 10 then rest else readCppStyleComment rest

/-- `readComment`, behind the first slash. -/
def readComment : List UInt8 → Bool × List UInt8
  | [] => (false, [])
  | c :: rest =>
    if c = '*'.toUInt8 then readCStyleComment rest
    else if c = '/'.toUInt8 then (true, readCppStyleComment rest)
    else (false, rest)

/-- A digit. -/
def isDigit (c : UInt8) : Bool := '0'.toUInt8 ≤ c && c ≤ '9'.toUInt8

/-- The bytes that `readNumber` reads. -/
def isNumberChar (c : UInt8) : Bool :=
  isDigit c || c = '.'.toUInt8 || c = 'e'.toUInt8 || c = 'E'.toUInt8 || c = '+'.toUInt8 ||
    c = '-'.toUInt8

/-- `readNumber`. -/
def readNumber (current : List UInt8) : List UInt8 := current.dropWhile isNumberChar

/-- A token that is an error if it could not be read. -/
def checked (type : TokenType) (r : Bool × List UInt8) : TokenType × List UInt8 :=
  (if r.1 then type else .error, r.2)

/-- The type of the next token and what is behind it, at a byte that is no space. -/
def scanToken : List UInt8 → TokenType × List UInt8
  | [] => (.endOfStream, [])
  | c :: rest =>
    if c = 123 then (.objectBegin, rest)
    else if c = 125 then (.objectEnd, rest)
    else if c = '['.toUInt8 then (.arrayBegin, rest)
    else if c = ']'.toUInt8 then (.arrayEnd, rest)
    else if c = quote then checked .string (readString rest)
    else if c = '/'.toUInt8 then checked .comment (readComment rest)
    else if isDigit c || c = '-'.toUInt8 then (.number, readNumber rest)
    else if c = 't'.toUInt8 then
      checked .true (matchText ['r'.toUInt8, 'u'.toUInt8, 'e'.toUInt8] rest)
    else if c = 'f'.toUInt8 then
      checked .false (matchText ['a'.toUInt8, 'l'.toUInt8, 's'.toUInt8, 'e'.toUInt8] rest)
    else if c = 'n'.toUInt8 then
      checked .null (matchText ['u'.toUInt8, 'l'.toUInt8, 'l'.toUInt8] rest)
    else if c = ','.toUInt8 then (.arraySeparator, rest)
    else if c = ':'.toUInt8 then (.memberSeparator, rest)
    else if c = 0 then (.endOfStream, rest)
    else (.error, rest)

/-- `readToken`: the token and what is behind it. -/
def readToken (current : List UInt8) : Token × List UInt8 :=
  let start := skipSpaces current
  let r := scanToken start
  (⟨r.1, start.take (start.length - r.2.length)⟩, r.2)

/-- Skipping spaces does not lengthen the rest. -/
theorem length_skipSpaces_le (current : List UInt8) :
    (skipSpaces current).length ≤ current.length :=
  (List.dropWhile_sublist _).length_le

/-- Nor does reading a string. -/
theorem length_readString_le (current : List UInt8) :
    (readString current).2.length ≤ current.length := by
  fun_induction readString current with
  | case1 => exact Nat.le_refl _
  | case2 c => simp
  | case3 d rest ih =>
    simp only [List.length_cons]
    omega
  | case4 d rest h => simp
  | case5 c d rest h h' ih =>
    simp only [List.length_cons] at ih ⊢
    omega

/-- Nor does reading a comment in the style of C. -/
theorem length_readCStyleComment_le (current : List UInt8) :
    (readCStyleComment current).2.length ≤ current.length := by
  induction current using readCStyleComment.induct with
  | case1 => exact Nat.le_refl _
  | case2 c => simp [readCStyleComment]
  | case3 c d rest h =>
    rw [readCStyleComment, if_pos h]
    simp only [List.length_cons]
    omega
  | case4 c d rest h ih =>
    rw [readCStyleComment, if_neg h]
    simp only [List.length_cons] at ih ⊢
    omega

/-- Nor does one in the style of C++. -/
theorem length_readCppStyleComment_le (current : List UInt8) :
    (readCppStyleComment current).length ≤ current.length := by
  induction current with
  | nil => exact Nat.le_refl _
  | cons c rest ih =>
    unfold readCppStyleComment
    split
    · simp
    · simp only [List.length_cons]
      omega

/-- Nor does a comment of either style. -/
theorem length_readComment_le (current : List UInt8) :
    (readComment current).2.length ≤ current.length := by
  cases current with
  | nil => exact Nat.le_refl _
  | cons c rest =>
    have hc := length_readCStyleComment_le rest
    have hcpp := length_readCppStyleComment_le rest
    simp only [readComment, List.length_cons]
    split
    · omega
    · split
      · dsimp only
        omega
      · simp

/-- Nor does matching a text. -/
theorem length_matchText_le (pattern current : List UInt8) :
    (matchText pattern current).2.length ≤ current.length := by
  unfold matchText
  split
  · simp
  · exact Nat.le_refl _

/-- A token at a byte takes at least that byte. -/
theorem length_scanToken_lt (c : UInt8) (rest : List UInt8) :
    (scanToken (c :: rest)).2.length < (c :: rest).length := by
  have hstring := length_readString_le rest
  have hcomment := length_readComment_le rest
  have hnumber : (readNumber rest).length ≤ rest.length := (List.dropWhile_sublist _).length_le
  have hmatch (pattern : List UInt8) := length_matchText_le pattern rest
  have hite {c : Prop} [Decidable c] {a b : TokenType × List UInt8}
      (ha : a.2.length ≤ rest.length) (hb : b.2.length ≤ rest.length) :
      (if c then a else b).2.length ≤ rest.length := by
    split
    · exact ha
    · exact hb
  rw [List.length_cons, Nat.lt_succ_iff, scanToken]
  iterate 4 refine hite (Nat.le_refl _) ?_
  refine hite hstring (hite hcomment (hite hnumber ?_))
  refine hite (hmatch _) (hite (hmatch _) (hite (hmatch _) ?_))
  iterate 3 refine hite (Nat.le_refl _) ?_
  exact Nat.le_refl _

/-- What is behind a token is no longer than the document before it. -/
theorem length_readToken_le (current : List UInt8) :
    (readToken current).2.length ≤ current.length := by
  have hskip := length_skipSpaces_le current
  change (scanToken (skipSpaces current)).2.length ≤ current.length
  cases hstart : skipSpaces current with
  | nil => exact Nat.zero_le _
  | cons c rest =>
    have hlt := length_scanToken_lt c rest
    rw [hstart] at hskip
    omega

/-- Every token but the end of the document takes something of it. -/
theorem length_readToken_lt {current : List UInt8}
    (h : (readToken current).1.type ≠ .endOfStream) :
    (readToken current).2.length < current.length := by
  have hskip := length_skipSpaces_le current
  change (scanToken (skipSpaces current)).1 ≠ .endOfStream at h
  change (scanToken (skipSpaces current)).2.length < current.length
  cases hstart : skipSpaces current with
  | nil =>
    rw [hstart] at h
    exact absurd rfl h
  | cons c rest =>
    have hlt := length_scanToken_lt c rest
    rw [hstart] at hskip
    omega

/-- `skipCommentTokens`: the next token that is no comment. -/
def skipCommentTokens (current : List UInt8) : Token × List UInt8 :=
  if (readToken current).1.type = .comment then skipCommentTokens (readToken current).2
  else readToken current
termination_by current.length
decreasing_by
  rename_i h
  exact length_readToken_lt (by rw [h]; decide)

/-- `recoverFromError`: what is behind the next token of a type, or behind the document. -/
def recoverFromError (skipUntilToken : TokenType) (current : List UInt8) : List UInt8 :=
  if (readToken current).1.type = skipUntilToken ∨ (readToken current).1.type = .endOfStream then
    (readToken current).2
  else recoverFromError skipUntilToken (readToken current).2
termination_by current.length
decreasing_by
  rename_i h
  exact length_readToken_lt fun hend => h (Or.inr hend)

/-- The value of a hexadecimal digit. -/
def hexDigit (c : UInt8) : Option ℕ :=
  if isDigit c then some (c.toNat - '0'.toNat)
  else if 'a'.toUInt8 ≤ c ∧ c ≤ 'f'.toUInt8 then some (c.toNat - 'a'.toNat + 10)
  else if 'A'.toUInt8 ≤ c ∧ c ≤ 'F'.toUInt8 then some (c.toNat - 'A'.toNat + 10)
  else none

/-- `decodeUnicodeEscapeSequence`: the number and what is behind its four digits. -/
def decodeUnicodeEscapeSequence : List UInt8 → Option (ℕ × List UInt8)
  | a :: b :: c :: d :: rest => do
    let a ← hexDigit a
    let b ← hexDigit b
    let c ← hexDigit c
    let d ← hexDigit d
    some (((a * 16 + b) * 16 + c) * 16 + d, rest)
  | _ => none

/-- `decodeUnicodeCodePoint`, with surrogate pairs. -/
def decodeUnicodeCodePoint (current : List UInt8) : Option (ℕ × List UInt8) := do
  let (unicode, rest) ← decodeUnicodeEscapeSequence current
  if 0xD800 ≤ unicode ∧ unicode ≤ 0xDBFF then
    if rest.length < 6 then none
    else
      match rest with
      | b :: u :: rest =>
        if b = backslash ∧ u = 'u'.toUInt8 then do
          let (surrogatePair, rest) ← decodeUnicodeEscapeSequence rest
          some (0x10000 + unicode % 0x400 * 0x400 + surrogatePair % 0x400, rest)
        else none
      | _ => none
  else some (unicode, rest)

/-- `codePointToUTF8`. -/
def codePointToUTF8 (cp : ℕ) : List UInt8 :=
  if cp ≤ 0x7f then [UInt8.ofNat cp]
  else if cp ≤ 0x7FF then [UInt8.ofNat (0xC0 + cp / 0x40), UInt8.ofNat (0x80 + cp % 0x40)]
  else if cp ≤ 0xFFFF then
    [UInt8.ofNat (0xE0 + cp / 0x1000), UInt8.ofNat (0x80 + cp / 0x40 % 0x40),
      UInt8.ofNat (0x80 + cp % 0x40)]
  else if cp ≤ 0x10FFFF then
    [UInt8.ofNat (0xF0 + cp / 0x40000), UInt8.ofNat (0x80 + cp / 0x1000 % 0x40),
      UInt8.ofNat (0x80 + cp / 0x40 % 0x40), UInt8.ofNat (0x80 + cp % 0x40)]
  else []

/-- The escapes of one byte. -/
def simpleEscape (c : UInt8) : Option UInt8 :=
  if c = quote then some quote
  else if c = '/'.toUInt8 then some '/'.toUInt8
  else if c = backslash then some backslash
  else if c = 'b'.toUInt8 then some 8
  else if c = 'f'.toUInt8 then some 12
  else if c = 'n'.toUInt8 then some 10
  else if c = 'r'.toUInt8 then some 13
  else if c = 't'.toUInt8 then some 9
  else none

/-- Nor does decoding the digits of an escape. -/
theorem length_decodeUnicodeEscapeSequence {current rest : List UInt8} {unicode : ℕ}
    (h : decodeUnicodeEscapeSequence current = some (unicode, rest)) :
    rest.length ≤ current.length := by
  unfold decodeUnicodeEscapeSequence at h
  split at h
  · simp only [Option.bind_eq_bind, Option.bind_eq_some_iff, Option.some.injEq,
      Prod.mk.injEq] at h
    obtain ⟨_, -, _, -, _, -, _, -, -, rfl⟩ := h
    simp only [List.length_cons]
    omega
  · exact absurd h (by simp)

/-- Nor does decoding a code point. -/
theorem length_decodeUnicodeCodePoint {current rest : List UInt8} {unicode : ℕ}
    (h : decodeUnicodeCodePoint current = some (unicode, rest)) :
    rest.length ≤ current.length := by
  unfold decodeUnicodeCodePoint at h
  simp only [Option.bind_eq_bind, Option.bind_eq_some_iff] at h
  obtain ⟨⟨first, behind⟩, hfirst, h⟩ := h
  have hle := length_decodeUnicodeEscapeSequence hfirst
  dsimp only at h
  split at h
  · split at h
    · exact absurd h (by simp)
    · split at h
      · rename_i b u behind _
        split at h
        · obtain ⟨⟨second, last⟩, hsecond, h⟩ := Option.bind_eq_some_iff.mp h
          have hle' := length_decodeUnicodeEscapeSequence hsecond
          obtain rfl := (Prod.mk.inj (Option.some.inj h)).2
          simp only [List.length_cons] at hle hle' ⊢
          omega
        · exact absurd h (by simp)
      · exact absurd h (by simp)
  · obtain rfl := (Prod.mk.inj (Option.some.inj h)).2
    exact hle

/-- The loop of `decodeString`, between the quotes; none after a bad escape. -/
def decodeChars (current : List UInt8) : Option (List UInt8) :=
  match current with
  | [] => some []
  | c :: rest =>
    if c = quote then some []
    else if c = backslash then
      match rest with
      | [] => none
      | e :: rest =>
        if e = 'u'.toUInt8 then
          match _h : decodeUnicodeCodePoint rest with
          | none => none
          | some (unicode, behind) => (decodeChars behind).map (codePointToUTF8 unicode ++ ·)
        else (simpleEscape e).bind fun d => (decodeChars rest).map (d :: ·)
    else (decodeChars rest).map (c :: ·)
termination_by current.length
decreasing_by
  · have hle := length_decodeUnicodeCodePoint _h
    simp only [List.length_cons]
    omega
  · simp only [List.length_cons]
    omega
  · simp

/-- `decodeString`. -/
def decodeString (token : Token) : Option (List UInt8) := decodeChars (token.text.drop 1).dropLast

variable (lib : ReaderLib)

/-- `decodeDouble`. -/
def decodeDouble (token : Token) : Option Value := (lib.scanDouble token.text).map Value.real

/-- The loop of `decodeNumber`: the number, or nothing where `decodeDouble` takes over. -/
def decodeDigits (threshold : ℕ) : ℕ → List UInt8 → Option ℕ
  | value, [] => some value
  | value, c :: rest =>
    if threshold ≤ value then none
    else decodeDigits threshold (value * 10 + (c.toNat - '0'.toNat)) rest

/-- The number is written as a double. -/
def isDouble (text : List UInt8) : Bool :=
  (text.any fun c => c = '.'.toUInt8 || c = 'e'.toUInt8 || c = 'E'.toUInt8 || c = '+'.toUInt8) ||
    text.tail.contains '-'.toUInt8

/-- `decodeNumber`. The bytes that are left behind the test for a double are digits. -/
def decodeNumber (token : Token) : Option Value :=
  if isDouble token.text then decodeDouble lib token
  else if token.text.head? = some '-'.toUInt8 then
    match decodeDigits (2147483648 / 10) 0 token.text.tail with
    | none => decodeDouble lib token
    | some value => some (.int (-value))
  else
    match decodeDigits (4294967295 / 10) 0 token.text with
    | none => decodeDouble lib token
    | some value => some (if value ≤ 2147483647 then .int value else .uint value)

/-- What reading a value into a place leaves: what the place holds, what is behind the value in
the document, and whether all went well. -/
abbrev Reading := Value × List UInt8 × Bool

/-- An error is recovered from. -/
def recovered (v : Value) (skipUntilToken : TokenType) (current : List UInt8) : Reading :=
  (v, recoverFromError skipUntilToken current, false)

/-- The types of the first token behind a member. -/
def MayFollowMember (type : TokenType) : Prop :=
  type = .objectEnd ∨ type = .arraySeparator ∨ type = .comment

instance (type : TokenType) : Decidable (MayFollowMember type) :=
  inferInstanceAs (Decidable (_ ∨ _))

/-- The members of an object after a member has been assigned. -/
def setMember (members : List (List UInt8 × Value)) (key : List UInt8) (x : Value) :
    List (List UInt8 × Value) :=
  ((Value.object (Value.enter members key)).overwrite key x).members

mutual

/-- `readValue` into a place that holds `v`, with a bound of steps. -/
def readValue : ℕ → List UInt8 → Value → Option Reading
  | 0, _, _ => none
  | n + 1, current, v =>
    let token := skipCommentTokens current
    match token.1.type with
    | .objectBegin => readMembers n token.2 [] true
    | .arrayBegin =>
      let inside := skipSpaces token.2
      if inside.head?.getD lib.behind = ']'.toUInt8 then
        some (.array [], (readToken inside).2, true)
      else readElements n inside []
    | .number =>
      match decodeNumber lib token.1 with
      | some x => some (x, token.2, true)
      | none => some (v, token.2, false)
    | .string =>
      match decodeString token.1 with
      | some x => some (.string x, token.2, true)
      | none => some (v, token.2, false)
    | .true => some (.boolean true, token.2, true)
    | .false => some (.boolean false, token.2, true)
    | .null => some (.null, token.2, true)
    | _ => some (v, token.2, false)

/-- The loop of `readObject`, with whether the last name was empty. -/
def readMembers : ℕ → List UInt8 → List (List UInt8 × Value) → Bool → Option Reading
  | 0, _, _, _ => none
  | n + 1, current, members, nameEmpty =>
    let tokenName := skipCommentTokens current
    if tokenName.1.type = .objectEnd ∧ nameEmpty = true then
      some (.object members, tokenName.2, true)
    else if tokenName.1.type ≠ .string then
      some (recovered (.object members) .objectEnd tokenName.2)
    else
      match decodeString tokenName.1 with
      | none => some (recovered (.object members) .objectEnd tokenName.2)
      | some name =>
        let colon := readToken tokenName.2
        let key := Value.cString name
        if colon.1.type ≠ .memberSeparator then
          some (recovered (.object members) .objectEnd colon.2)
        else
          (readValue n colon.2 ((Value.object members).member key)).bind fun r =>
            let members := setMember members key r.1
            let comma := readToken r.2.1
            if r.2.2 = false then some (recovered (.object members) .objectEnd r.2.1)
            else if ¬ MayFollowMember comma.1.type then
              some (recovered (.object members) .objectEnd comma.2)
            else
              let last := if comma.1.type = .comment then skipCommentTokens comma.2 else comma
              if last.1.type = .objectEnd then some (.object members, last.2, true)
              else readMembers n last.2 members name.isEmpty

/-- The loop of `readArray`. -/
def readElements : ℕ → List UInt8 → List Value → Option Reading
  | 0, _, _ => none
  | n + 1, current, elements =>
    (readValue n current .null).bind fun r =>
      let elements := elements ++ [r.1]
      let token := skipCommentTokens r.2.1
      if r.2.2 = false then some (recovered (.array elements) .arrayEnd r.2.1)
      else if token.1.type = .arrayEnd then some (.array elements, token.2, true)
      else if token.1.type = .arraySeparator then readElements n token.2 elements
      else some (recovered (.array elements) .arrayEnd token.2)

end

/-- `Reader::parse`: what it leaves in `root`, and whether all went well. -/
def parse (document : List UInt8) (root : Value) : Value × Bool :=
  match readValue lib (2 * document.length + 1) document root with
  | some r => (r.1, r.2.2)
  | none => (root, false)

/-- What is behind the next token that is no comment. -/
theorem length_skipCommentTokens_le (current : List UInt8) :
    (skipCommentTokens current).2.length ≤ current.length := by
  fun_induction skipCommentTokens current with
  | case1 current h ih =>
    have hle := length_readToken_le current
    omega
  | case2 current h => exact length_readToken_le current

/-- Skipping comments takes something too, unless the document ends. -/
theorem length_skipCommentTokens_lt {current : List UInt8}
    (h : (skipCommentTokens current).1.type ≠ .endOfStream) :
    (skipCommentTokens current).2.length < current.length := by
  fun_induction skipCommentTokens current with
  | case1 current hcomment ih =>
    have hlt := ih h
    have hle := length_readToken_le current
    omega
  | case2 current hother => exact length_readToken_lt h

/-- What is behind an error. -/
theorem length_recoverFromError_le (skipUntilToken : TokenType) (current : List UInt8) :
    (recoverFromError skipUntilToken current).length ≤ current.length := by
  fun_induction recoverFromError skipUntilToken current with
  | case1 current h => exact length_readToken_le current
  | case2 current h ih =>
    have hle := length_readToken_le current
    omega

/-- A value has been read and leaves no more of the document than there was. -/
def Reads (current : List UInt8) (r : Option Reading) : Prop :=
  ∃ v rest ok, r = some (v, rest, ok) ∧ rest.length ≤ current.length

/-- What is read from a part of the document. -/
theorem Reads.mono {current behind : List UInt8} {r : Option Reading} (h : Reads behind r)
    (hle : behind.length ≤ current.length) : Reads current r := by
  obtain ⟨v, rest, ok, hr, hrest⟩ := h
  exact ⟨v, rest, ok, hr, Nat.le_trans hrest hle⟩

/-- A result. -/
theorem reads_some {current rest : List UInt8} (v : Value) (ok : Bool)
    (hle : rest.length ≤ current.length) : Reads current (some (v, rest, ok)) :=
  ⟨v, rest, ok, rfl, hle⟩

/-- A result after an error. -/
theorem reads_recovered {current rest : List UInt8} (v : Value) (skipUntilToken : TokenType)
    (hle : rest.length ≤ current.length) :
    Reads current (some (recovered v skipUntilToken rest)) :=
  ⟨v, _, false, rfl, Nat.le_trans (length_recoverFromError_le skipUntilToken rest) hle⟩

variable {lib}

/-- `readValue`, if what it calls has steps enough. -/
theorem reads_readValue_succ {n : ℕ}
    (hmembers : ∀ current members nameEmpty, 2 * current.length + 1 ≤ n →
      Reads current (readMembers lib n current members nameEmpty))
    (helements : ∀ current elements, 2 * current.length + 2 ≤ n →
      Reads current (readElements lib n current elements))
    {current : List UInt8} (v : Value) (hn : 2 * current.length + 1 ≤ n + 1) :
    Reads current (readValue lib (n + 1) current v) := by
  have hle := length_skipCommentTokens_le current
  have hlt : (skipCommentTokens current).1.type ≠ .endOfStream →
      (skipCommentTokens current).2.length < current.length := length_skipCommentTokens_lt
  rw [readValue]
  dsimp only
  split
  · rename_i htype
    have := hlt (by rw [htype]; decide)
    exact (hmembers _ _ _ (by omega)).mono hle
  · rename_i htype
    have := hlt (by rw [htype]; decide)
    have hspaces := length_skipSpaces_le (skipCommentTokens current).2
    have htoken := length_readToken_le (skipSpaces (skipCommentTokens current).2)
    split
    · exact reads_some _ _ (by omega)
    · exact (helements _ _ (by omega)).mono (by omega)
  · split <;> exact reads_some _ _ hle
  · split <;> exact reads_some _ _ hle
  all_goals exact reads_some _ _ hle

/-- The loop of `readObject`, if what it calls has steps enough. -/
theorem reads_readMembers_succ {n : ℕ}
    (hvalue : ∀ current v, 2 * current.length + 1 ≤ n → Reads current (readValue lib n current v))
    (hmembers : ∀ current members nameEmpty, 2 * current.length + 1 ≤ n →
      Reads current (readMembers lib n current members nameEmpty))
    {current : List UInt8} (members : List (List UInt8 × Value)) (nameEmpty : Bool)
    (hn : 2 * current.length + 1 ≤ n + 1) :
    Reads current (readMembers lib (n + 1) current members nameEmpty) := by
  have hle := length_skipCommentTokens_le current
  rw [readMembers]
  dsimp only
  split
  · exact reads_some _ _ hle
  · split
    · exact reads_recovered _ _ hle
    · rename_i hstring
      have hlt : (skipCommentTokens current).2.length < current.length :=
        length_skipCommentTokens_lt (by rw [not_not.mp hstring]; decide)
      have hcolon := length_readToken_le (skipCommentTokens current).2
      split
      · exact reads_recovered _ _ hle
      · split
        · exact reads_recovered _ _ (by omega)
        · obtain ⟨x, rest, ok, hr, hrest⟩ := hvalue (readToken (skipCommentTokens current).2).2
            ((Value.object members).member (Value.cString _)) (by omega)
          have hcomma := length_readToken_le rest
          have hskip := length_skipCommentTokens_le (readToken rest).2
          rw [hr, Option.bind_some]
          dsimp only
          split
          · exact reads_recovered _ _ (by omega)
          · split
            · exact reads_recovered _ _ (by omega)
            · generalize hlast : (if (readToken rest).1.type = .comment then
                skipCommentTokens (readToken rest).2 else readToken rest) = last
              have hbehind : last.2.length ≤ rest.length := by
                rw [← hlast]
                split <;> omega
              split
              · exact reads_some _ _ (by omega)
              · exact (hmembers _ _ _ (by omega)).mono (by omega)

/-- The loop of `readArray`, if what it calls has steps enough. -/
theorem reads_readElements_succ {n : ℕ}
    (hvalue : ∀ current v, 2 * current.length + 1 ≤ n → Reads current (readValue lib n current v))
    (helements : ∀ current elements, 2 * current.length + 2 ≤ n →
      Reads current (readElements lib n current elements))
    {current : List UInt8} (elements : List Value) (hn : 2 * current.length + 2 ≤ n + 1) :
    Reads current (readElements lib (n + 1) current elements) := by
  obtain ⟨x, rest, ok, hr, hrest⟩ := hvalue current .null (by omega)
  have hle := length_skipCommentTokens_le rest
  rw [readElements, hr, Option.bind_some]
  dsimp only
  split
  · exact reads_recovered _ _ (by omega)
  · split
    · exact reads_some _ _ (by omega)
    · split
      · rename_i hseparator
        have hlt : (skipCommentTokens rest).2.length < rest.length :=
          length_skipCommentTokens_lt (by rw [hseparator]; decide)
        exact (helements _ _ (by omega)).mono (by omega)
      · exact reads_recovered _ _ (by omega)

/-- With steps enough for the length of the document every value is read. -/
theorem reads (n : ℕ) :
    (∀ current v, 2 * current.length + 1 ≤ n → Reads current (readValue lib n current v)) ∧
      (∀ current members nameEmpty, 2 * current.length + 1 ≤ n →
        Reads current (readMembers lib n current members nameEmpty)) ∧
      ∀ current elements, 2 * current.length + 2 ≤ n →
        Reads current (readElements lib n current elements) := by
  induction n with
  | zero =>
    refine ⟨fun current v hn => ?_, fun current members nameEmpty hn => ?_,
      fun current elements hn => ?_⟩
    all_goals omega
  | succ n ih =>
    obtain ⟨hvalue, hmembers, helements⟩ := ih
    exact ⟨fun current v hn => reads_readValue_succ hmembers helements v hn,
      fun current members nameEmpty hn =>
        reads_readMembers_succ hvalue hmembers members nameEmpty hn,
      fun current elements hn => reads_readElements_succ hvalue helements elements hn⟩

/-- The bound that `parse` gives is large enough. -/
theorem parse_eq (document : List UInt8) (root : Value) :
    ∃ rest, readValue lib (2 * document.length + 1) document root =
      some ((parse lib document root).1, rest, (parse lib document root).2) := by
  obtain ⟨v, rest, ok, hr, -⟩ := (reads _).1 document root (Nat.le_refl _)
  exact ⟨rest, by rw [parse, hr]⟩

/-- What `readObject` leaves is an object. -/
theorem isObject_readMembers {n : ℕ} {current : List UInt8}
    {members : List (List UInt8 × Value)} {nameEmpty : Bool} {r : Reading}
    (h : readMembers lib n current members nameEmpty = some r) : r.1.isObject = true := by
  induction n generalizing current members nameEmpty with
  | zero =>
    rw [readMembers] at h
    cases h
  | succ n ih =>
    rw [readMembers] at h
    dsimp only at h
    split at h
    · rw [← Option.some.inj h]
      rfl
    · split at h
      · rw [← Option.some.inj h]
        rfl
      · split at h
        · rw [← Option.some.inj h]
          rfl
        · split at h
          · rw [← Option.some.inj h]
            rfl
          · obtain ⟨x, -, hx⟩ := Option.bind_eq_some_iff.mp h
            split at hx
            · rw [← Option.some.inj hx]
              rfl
            · split at hx
              · rw [← Option.some.inj hx]
                rfl
              · generalize (if (readToken x.2.1).1.type = .comment then
                  skipCommentTokens (readToken x.2.1).2 else readToken x.2.1) = last at hx
                split at hx
                · rw [← Option.some.inj hx]
                  rfl
                · exact ih hx

/-- What `readArray` leaves is no object. -/
theorem isObject_readElements {n : ℕ} {current : List UInt8} {elements : List Value}
    {r : Reading} (h : readElements lib n current elements = some r) :
    r.1.isObject = false := by
  induction n generalizing current elements with
  | zero =>
    rw [readElements] at h
    cases h
  | succ n ih =>
    rw [readElements] at h
    obtain ⟨x, -, hx⟩ := Option.bind_eq_some_iff.mp h
    dsimp only at hx
    split at hx
    · rw [← Option.some.inj hx]
      rfl
    · split at hx
      · rw [← Option.some.inj hx]
        rfl
      · split at hx
        · exact ih hx
        · rw [← Option.some.inj hx]
          rfl

variable (lib)

/-- Whether a document that is read into a place leaves null or an object there: its first
token decides, if what it stands for can be decoded. -/
def leavesObject (document : List UInt8) (root : Value) : Bool :=
  let token := (skipCommentTokens document).1
  match token.type with
  | .objectBegin => true
  | .null => true
  | .arrayBegin => false
  | .true => false
  | .false => false
  | .number => (decodeNumber lib token).isNone && root.isObject
  | .string => (decodeString token).isNone && root.isObject
  | _ => root.isObject

variable {lib}

/-- A number is no object. -/
theorem isObject_decodeNumber {token : Token} {x : Value} (h : decodeNumber lib token = some x) :
    x.isObject = false := by
  have hdouble (hx : decodeDouble lib token = some x) : x.isObject = false := by
    obtain ⟨d, -, rfl⟩ := Option.map_eq_some_iff.mp hx
    rfl
  unfold decodeNumber at h
  split at h
  · exact hdouble h
  · split at h
    · split at h
      · exact hdouble h
      · rw [← Option.some.inj h]
        rfl
    · split at h
      · exact hdouble h
      · rw [← Option.some.inj h]
        split <;> rfl

/-- Whether null or an object is left is decided by the first token. -/
theorem isObject_parse (document : List UInt8) (root : Value) :
    (parse lib document root).1.isObject = leavesObject lib document root := by
  obtain ⟨rest, hr⟩ := @parse_eq lib document root
  rw [readValue] at hr
  dsimp only at hr
  unfold leavesObject
  dsimp only
  split at hr
  · rename_i htype
    rw [htype]
    exact isObject_readMembers hr
  · rename_i htype
    rw [htype]
    split at hr
    · rw [← (Prod.mk.inj (Option.some.inj hr)).1]
      rfl
    · exact isObject_readElements hr
  · rename_i htype
    rw [htype]
    split at hr
    · rename_i x hx
      rw [← (Prod.mk.inj (Option.some.inj hr)).1, isObject_decodeNumber hx]
      simp [hx]
    · rename_i hnone
      rw [← (Prod.mk.inj (Option.some.inj hr)).1]
      simp [hnone]
  · rename_i htype
    rw [htype]
    split at hr
    · rename_i x hx
      rw [← (Prod.mk.inj (Option.some.inj hr)).1]
      simp [hx, Value.isObject]
    · rename_i hnone
      rw [← (Prod.mk.inj (Option.some.inj hr)).1]
      simp [hnone]
  · rename_i htype
    rw [htype, ← (Prod.mk.inj (Option.some.inj hr)).1]
    rfl
  · rename_i htype
    rw [htype, ← (Prod.mk.inj (Option.some.inj hr)).1]
    rfl
  · rename_i htype
    rw [htype, ← (Prod.mk.inj (Option.some.inj hr)).1]
    rfl
  · rw [← (Prod.mk.inj (Option.some.inj hr)).1]
    split <;> first | rfl | contradiction

end Reader

end Json
