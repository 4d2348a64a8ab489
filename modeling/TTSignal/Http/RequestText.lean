import TTSignal.Http.Url

/-!
# The text of a request

`HttpConnector::BuildRequestText` writes a request out of the method, the target, the
header fields and the body that a caller gave. A reader of requests is described beside
it, by the lines of the head; what it reads back is what the caller asked for, with the
fields that say where the request ends written by the connector alone.
-/

namespace Http

open Text

/-- `HttpHeaderMap`. -/
abbrev HttpHeaderMap := Std.TreeMap (List UInt8) (List UInt8)

/-- `HttpRequest`. -/
structure HttpRequest where
  /-- `method`. -/
  method : List UInt8
  /-- `url`. -/
  url : List UInt8
  /-- `headers`. -/
  headers : HttpHeaderMap
  /-- `body`. -/
  body : List UInt8
  /-- `resolvedIp`. -/
  resolvedIp : List UInt8

/-- `_IsTokenChar`. -/
def IsTokenChar (c : UInt8) : Prop :=
  ('a'.toUInt8 ≤ c ∧ c ≤ 'z'.toUInt8) ∨ ('A'.toUInt8 ≤ c ∧ c ≤ 'Z'.toUInt8) ∨ IsDigit c ∨
    c ∈ ofString "!#$%&'*+-.^_`|~"

instance (c : UInt8) : Decidable (IsTokenChar c) := inferInstanceAs (Decidable (_ ∨ _))

/-- `_IsToken`. -/
def IsToken (s : List UInt8) : Prop := s ≠ [] ∧ ∀ c ∈ s, IsTokenChar c

instance (s : List UInt8) : Decidable (IsToken s) :=
  have : Decidable (∀ c ∈ s, IsTokenChar c) := List.decidableBAll _ s
  inferInstanceAs (Decidable (_ ∧ _))

/-- `_IsSafeHeaderValue`: no carriage return, line feed or zero. -/
def IsSafeHeaderValue (s : List UInt8) : Prop := ∀ c ∈ s, c ≠ 13 ∧ c ≠ 10 ∧ c ≠ 0

instance (s : List UInt8) : Decidable (IsSafeHeaderValue s) := List.decidableBAll _ s

/-- `_FindHeaderCI`. -/
def findHeaderCI (headers : HttpHeaderMap) (nameLower : List UInt8) : Option (List UInt8) :=
  (headers.toList.find? fun e => lower e.1 = nameLower).map Prod.snd

/-- `_ToUpperAscii`. -/
def toUpperAscii (s : List UInt8) : List UInt8 :=
  s.map fun c =>
    if 'a'.toUInt8 ≤ c ∧ c ≤ 'z'.toUInt8 then c - 'a'.toUInt8 + 'A'.toUInt8 else c

/-- `_MethodExpectsBody`. -/
def MethodExpectsBody (methodUpper : List UInt8) : Prop :=
  methodUpper = ofString "POST" ∨ methodUpper = ofString "PUT" ∨ methodUpper = ofString "PATCH"

instance (s : List UInt8) : Decidable (MethodExpectsBody s) := inferInstanceAs (Decidable (_ ∨ _))

/-- The two bytes that end a line. -/
def crlf : List UInt8 := [13, 10]

/-- A field of the head as it is written, without the end of its line. -/
def fieldLine (field : List UInt8 × List UInt8) : List UInt8 :=
  field.1 ++ ofString ": " ++ field.2

namespace HttpRequest

variable (req : HttpRequest) (parts : HttpUrlParts) (keepAlive : Bool)

/-- The method: `GET` when none is given. -/
def methodText : List UInt8 := if req.method = [] then ofString "GET" else req.method

/-- The error of the first header field that cannot be sent. -/
def headerError : Option (List UInt8) :=
  req.headers.toList.findSome? fun e =>
    if ¬ IsToken e.1 then
      some (ofString "头名 \"" ++ e.1 ++ ofString "\" 不是合法的 HTTP token")
    else if ¬ IsSafeHeaderValue e.2 then
      some (ofString "头 \"" ++ e.1 ++ ofString "\" 的取值含有 CR/LF/NUL，拒绝发送")
    else none

/-- The value of the `Host` field: the caller's own one comes first. -/
def hostValue : List UInt8 := (findHeaderCI req.headers (ofString "host")).getD parts.hostHeader

/-- The size of the body is written. -/
def NeedsContentLength : Prop := req.body ≠ [] ∨ MethodExpectsBody (toUpperAscii req.methodText)

instance : Decidable req.NeedsContentLength := inferInstanceAs (Decidable (_ ∨ _))

/-- The fields the connector writes itself. -/
def ownFields : List (List UInt8 × List UInt8) :=
  [(ofString "Host", req.hostValue parts)] ++
    (if (findHeaderCI req.headers (ofString "user-agent")).isNone then
      [(ofString "User-Agent", ofString "ttsignal/1.0")] else []) ++
    (if req.NeedsContentLength then
      [(ofString "Content-Length", decimal req.body.length)] else []) ++
    (if keepAlive then [] else [(ofString "Connection", ofString "close")])

/-- The names of fields that are not taken from the caller. -/
def reserved : List (List UInt8) :=
  [ofString "host", ofString "content-length", ofString "connection",
    ofString "transfer-encoding"]

/-- The fields that are taken from the caller. -/
def callerFields : List (List UInt8 × List UInt8) :=
  req.headers.toList.filter fun e => lower e.1 ∉ reserved

/-- The fields of the head in order. -/
def fields : List (List UInt8 × List UInt8) := req.ownFields parts keepAlive ++ req.callerFields

/-- The first line. -/
def requestLine : List UInt8 :=
  req.methodText ++ ofString " " ++ parts.target ++ ofString " HTTP/1.1"

/-- The whole text. -/
def text : List UInt8 :=
  req.requestLine parts ++ crlf ++
    (req.fields parts keepAlive).flatMap (fun field => fieldLine field ++ crlf) ++ crlf ++ req.body

end HttpRequest

/-- `HttpConnector::BuildRequestText`: the text, or the error. -/
def buildRequestText (req : HttpRequest) (parts : HttpUrlParts) (keepAlive : Bool) :
    Except (List UInt8) (List UInt8) :=
  if ¬ IsToken req.methodText then
    .error (ofString "method \"" ++ req.methodText ++ ofString "\" 不是合法的 HTTP token")
  else if parts.target = [] ∨ ¬ IsSafeRequestPart parts.target then
    .error (ofString "request-target 非法")
  else
    match req.headerError with
    | some error => .error error
    | none =>
      if req.hostValue parts = [] ∨ ¬ IsSafeHeaderValue (req.hostValue parts) then
        .error (ofString "Host 头为空或含有非法字符")
      else .ok (req.text parts keepAlive)

/-- A request head that has been read, and what stands behind it. -/
structure RequestHead where
  /-- The method. -/
  method : List UInt8
  /-- The target. -/
  target : List UInt8
  /-- The protocol version. -/
  version : List UInt8
  /-- The fields in order. -/
  fields : List (List UInt8 × List UInt8)
  /-- The bytes behind the empty line. -/
  body : List UInt8
  deriving DecidableEq

namespace RequestHead

/-- The lines up to the first empty one, and what stands behind it. -/
def readLines : ℕ → List UInt8 → Option (List (List UInt8) × List UInt8)
  | 0, _ => none
  | fuel + 1, s =>
    match cut crlf s with
    | none => none
    | some ([], rest) => some ([], rest)
    | some (line, rest) => (readLines fuel rest).map fun r => (line :: r.1, r.2)

/-- A field: a name, a colon, a space and a value. -/
def readField (line : List UInt8) : Option (List UInt8 × List UInt8) :=
  match cut [':'.toUInt8] line with
  | some (name, c :: value) => if c = ' '.toUInt8 then some (name, value) else none
  | _ => none

/-- All lines are fields. -/
def readFields : List (List UInt8) → Option (List (List UInt8 × List UInt8))
  | [] => some []
  | line :: lines => (readField line).bind fun field => (readFields lines).map (field :: ·)

/-- A request line: the method, the target and the version, with a space between them. -/
def readRequestLine (line : List UInt8) : Option (List UInt8 × List UInt8 × List UInt8) :=
  (cut [' '.toUInt8] line).bind fun first =>
    (cut [' '.toUInt8] first.2).map fun second => (first.1, second.1, second.2)

/-- Read a request: the lines of the head, the first of which is the request line. -/
def read (s : List UInt8) : Option RequestHead :=
  match readLines (s.length + 1) s with
  | some (line :: lines, body) =>
    (readRequestLine line).bind fun (method, target, version) =>
      (readFields lines).map fun fields => ⟨method, target, version, fields, body⟩
  | _ => none

/-- The fields of a name, in any case. -/
def named (head : RequestHead) (name : List UInt8) : List (List UInt8 × List UInt8) :=
  head.fields.filter fun field => lower field.1 = name

/-- The head says what the request does: its method and target, one host, the size of its
body and nothing else about where it ends, and otherwise only fields of the caller. -/
structure Carries (head : RequestHead) (req : HttpRequest) (parts : HttpUrlParts) : Prop where
  /-- The method is the given one. -/
  method : head.method = req.methodText
  /-- The target is the given one. -/
  target : head.target = parts.target
  /-- The version is `HTTP/1.1`. -/
  version : head.version = ofString "HTTP/1.1"
  /-- There is one `Host` field. -/
  host : (head.named (ofString "host")).length = 1
  /-- There is no `Transfer-Encoding` field. -/
  transferEncoding : head.named (ofString "transfer-encoding") = []
  /-- There is at most one `Content-Length` field. -/
  contentLength_le : (head.named (ofString "content-length")).length ≤ 1
  /-- It has the size of the body. -/
  contentLength_value :
    ∀ field ∈ head.named (ofString "content-length"), field.2 = decimal req.body.length
  /-- A body that is not empty has its size written. -/
  contentLength_ne : req.body ≠ [] → head.named (ofString "content-length") ≠ []
  /-- There is at most one `Connection` field. -/
  connection : (head.named (ofString "connection")).length ≤ 1
  /-- Every other field is one of the caller's or the default `User-Agent`. -/
  others : ∀ field ∈ head.fields, lower field.1 ≠ ofString "host" →
    lower field.1 ≠ ofString "content-length" → lower field.1 ≠ ofString "connection" →
      field ∈ req.headers.toList ∨ field = (ofString "User-Agent", ofString "ttsignal/1.0")
  /-- The body stands behind the empty line. -/
  body : head.body = req.body

end RequestHead

section Lines

variable {lines : List (List UInt8)} {body line name value : List UInt8} {c : UInt8}
  {fields : List (List UInt8 × List UInt8)}

/-- There are no more lines than bytes. -/
theorem length_le_flatMap (lines : List (List UInt8)) :
    lines.length ≤ (lines.flatMap (· ++ crlf)).length := by
  induction lines with
  | nil => simp
  | cons line lines ih =>
    have hcrlf : crlf.length = 2 := by decide
    rw [List.flatMap_cons, List.length_append, List.length_append, List.length_cons]
    omega

/-- Lines without a carriage return are read back up to the empty line. -/
theorem readLines_append {fuel : ℕ} (hlines : ∀ line ∈ lines, line ≠ [] ∧ 13 ∉ line)
    (hfuel : lines.length < fuel) :
    RequestHead.readLines fuel (lines.flatMap (· ++ crlf) ++ crlf ++ body) =
      some (lines, body) := by
  induction lines generalizing fuel with
  | nil =>
    obtain ⟨fuel, rfl⟩ : ∃ n, fuel = n + 1 := ⟨fuel - 1, by omega⟩
    have hcut : cut crlf (crlf ++ body) = some ([], body) := by
      change cut crlf ([] ++ crlf ++ body) = _
      exact cut_append List.not_mem_nil
    rw [List.flatMap_nil, List.nil_append, RequestHead.readLines, hcut]
  | cons line lines ih =>
    rw [List.length_cons] at hfuel
    obtain ⟨fuel, rfl⟩ : ∃ n, fuel = n + 1 := ⟨fuel - 1, by omega⟩
    obtain ⟨hne, hcr⟩ := hlines line (by simp)
    have hrest : RequestHead.readLines fuel (lines.flatMap (· ++ crlf) ++ crlf ++ body) =
        some (lines, body) := ih (fun l hl => hlines l (by simp [hl])) (by omega)
    have hsplit : (line :: lines).flatMap (· ++ crlf) ++ crlf ++ body =
        line ++ crlf ++ (lines.flatMap (· ++ crlf) ++ crlf ++ body) := by
      simp only [List.flatMap_cons, List.append_assoc]
    have hcut : cut crlf (line ++ crlf ++ (lines.flatMap (· ++ crlf) ++ crlf ++ body)) =
        some (line, lines.flatMap (· ++ crlf) ++ crlf ++ body) := cut_append hcr
    obtain ⟨d, line, rfl⟩ := List.exists_cons_of_ne_nil hne
    rw [hsplit, RequestHead.readLines, hcut]
    simp only [hrest, Option.map_some]

/-- A field whose name has no colon is read back. -/
theorem readField_fieldLine (hname : ':'.toUInt8 ∉ name) :
    RequestHead.readField (fieldLine (name, value)) = some (name, value) := by
  have hline : fieldLine (name, value) = name ++ ':'.toUInt8 :: (' '.toUInt8 :: value) := by
    have hsep : ofString ": " = [':'.toUInt8, ' '.toUInt8] := by decide
    rw [fieldLine, hsep, List.append_assoc]
    rfl
  rw [RequestHead.readField, hline, cut_singleton hname]
  exact if_pos rfl

/-- Fields whose names have no colon are read back. -/
theorem readFields_map (hnames : ∀ field ∈ fields, ':'.toUInt8 ∉ field.1) :
    RequestHead.readFields (fields.map fieldLine) = some fields := by
  induction fields with
  | nil => rfl
  | cons field fields ih =>
    rw [List.map_cons, RequestHead.readFields,
      readField_fieldLine (hnames field (by simp)), ih fun f hf => hnames f (by simp [hf])]
    rfl

/-- A request line whose method and target have no space is read back. -/
theorem readRequestLine_append {method target version : List UInt8}
    (hmethod : ' '.toUInt8 ∉ method) (htarget : ' '.toUInt8 ∉ target) :
    RequestHead.readRequestLine (method ++ ' '.toUInt8 :: (target ++ ' '.toUInt8 :: version)) =
      some (method, target, version) := by
  rw [RequestHead.readRequestLine, cut_singleton hmethod, Option.bind_some,
    cut_singleton htarget]
  rfl

/-- A byte that no token has does not occur in one. -/
theorem not_mem_of_isToken (hname : IsToken name) (hc : ¬ IsTokenChar c) : c ∉ name :=
  fun hmem => hc (hname.2 c hmem)

/-- The line of a field with a token and a safe value has no carriage return. -/
theorem not_mem_fieldLine (hname : IsToken name) (hvalue : IsSafeHeaderValue value) :
    13 ∉ fieldLine (name, value) := by
  rw [fieldLine, List.mem_append, List.mem_append, not_or, not_or]
  refine ⟨⟨not_mem_of_isToken hname (by decide), by decide⟩, fun hmem => ?_⟩
  exact (hvalue 13 hmem).1 rfl

/-- A request line, the fields and a body, with the lines ended. -/
def requestText (method target : List UInt8) (fields : List (List UInt8 × List UInt8))
    (body : List UInt8) : List UInt8 :=
  method ++ ofString " " ++ target ++ ofString " HTTP/1.1" ++ crlf ++
    fields.flatMap (fun field => fieldLine field ++ crlf) ++ crlf ++ body

/-- The lines of the head of a request. -/
def requestLines (method target : List UInt8) (fields : List (List UInt8 × List UInt8)) :
    List (List UInt8) :=
  (method ++ ofString " " ++ target ++ ofString " HTTP/1.1") :: fields.map fieldLine

/-- The text is made of its lines. -/
theorem requestText_eq (method target body : List UInt8)
    (fields : List (List UInt8 × List UInt8)) :
    requestText method target fields body =
      (requestLines method target fields).flatMap (· ++ crlf) ++ crlf ++ body := by
  rw [requestText, requestLines, List.flatMap_cons, List.flatMap_map]

/-- The lines of a request that can be sent are not empty and have no carriage return. -/
theorem requestLines_spec {method target : List UInt8} (hmethod : IsToken method)
    (htarget : IsSafeRequestPart target)
    (hfields : ∀ field ∈ fields, IsToken field.1 ∧ IsSafeHeaderValue field.2) :
    ∀ line ∈ requestLines method target fields, line ≠ [] ∧ 13 ∉ line := by
  intro line hmem
  rcases List.mem_cons.mp hmem with rfl | hmem
  · refine ⟨by simp [hmethod.1], ?_⟩
    simp only [List.mem_append, not_or]
    exact ⟨⟨⟨not_mem_of_isToken hmethod (by decide), by decide⟩,
      fun hmem => absurd (htarget _ hmem) (by decide)⟩, by decide⟩
  · obtain ⟨⟨name, value⟩, hfield, rfl⟩ := List.mem_map.mp hmem
    obtain ⟨htoken, hvalue⟩ := hfields _ hfield
    refine ⟨fun hnil => htoken.1 ?_, not_mem_fieldLine htoken hvalue⟩
    rw [fieldLine, List.append_assoc, List.append_eq_nil_iff] at hnil
    exact hnil.1

/-- A request that can be sent is read back. -/
theorem read_requestText {method target : List UInt8} (hmethod : IsToken method)
    (htarget : IsSafeRequestPart target)
    (hfields : ∀ field ∈ fields, IsToken field.1 ∧ IsSafeHeaderValue field.2) :
    RequestHead.read (requestText method target fields body) =
      some ⟨method, target, ofString "HTTP/1.1", fields, body⟩ := by
  have hline : method ++ ofString " " ++ target ++ ofString " HTTP/1.1" = method ++ ' '.toUInt8 ::
      (target ++ ' '.toUInt8 :: ofString "HTTP/1.1") := by
    have hsep : ofString " " = [' '.toUInt8] := by decide
    have hversion : ofString " HTTP/1.1" = ' '.toUInt8 :: ofString "HTTP/1.1" := by decide
    rw [hsep, hversion, List.append_assoc, List.append_assoc, List.singleton_append]
  have hspace : ' '.toUInt8 ∉ target := fun hmem => absurd (htarget _ hmem) (by decide)
  have hfuel : (requestLines method target fields).length <
      (requestText method target fields body).length + 1 := by
    have hle := length_le_flatMap (requestLines method target fields)
    rw [requestText_eq, List.length_append, List.length_append]
    omega
  have hread := @readLines_append (requestLines method target fields) body _
    (requestLines_spec hmethod htarget hfields) hfuel
  rw [← requestText_eq] at hread
  have hnames : ∀ field ∈ fields, ':'.toUInt8 ∉ field.1 := fun field hfield =>
    not_mem_of_isToken (hfields field hfield).1 (by decide)
  simp only [RequestHead.read, hread, requestLines, hline,
    readRequestLine_append (not_mem_of_isToken hmethod (by decide)) hspace, Option.bind_some,
    readFields_map hnames, Option.map_some]

end Lines

namespace HttpRequest

variable {req : HttpRequest} {parts : HttpUrlParts} {keepAlive : Bool}
  {field : List UInt8 × List UInt8}

/-- Without an error every field of the caller can be sent. -/
theorem sendable_of_headerError (h : req.headerError = none) (hfield : field ∈ req.headers.toList) :
    IsToken field.1 ∧ IsSafeHeaderValue field.2 := by
  have hnone := List.findSome?_eq_none_iff.mp h field hfield
  by_cases htoken : IsToken field.1
  · by_cases hsafe : IsSafeHeaderValue field.2
    · exact ⟨htoken, hsafe⟩
    · simp [htoken, hsafe] at hnone
  · simp [htoken] at hnone

/-- A decimal number is a safe value. -/
theorem isSafeHeaderValue_decimal (n : ℕ) : IsSafeHeaderValue (decimal n) := by
  intro c hc
  have hdigit := isDigit_of_mem_decimal hc
  refine ⟨?_, ?_, ?_⟩
  · rintro rfl
    exact absurd hdigit (by decide)
  · rintro rfl
    exact absurd hdigit (by decide)
  · rintro rfl
    exact absurd hdigit (by decide)

/-- Every field of the head can be sent. -/
theorem sendable (herror : req.headerError = none) (hhost : IsSafeHeaderValue (req.hostValue parts))
    (hfield : field ∈ req.fields parts keepAlive) :
    IsToken field.1 ∧ IsSafeHeaderValue field.2 := by
  rw [fields, List.mem_append] at hfield
  rcases hfield with hown | hcaller
  · simp only [ownFields, List.mem_append, List.mem_singleton] at hown
    rcases hown with ((rfl | hagent) | hlength) | hconnection
    · exact ⟨(by decide : IsToken (ofString "Host")), hhost⟩
    · split at hagent
      · rw [List.mem_singleton.mp hagent]
        exact ⟨by decide, by decide⟩
      · exact absurd hagent (by simp)
    · split at hlength
      · rw [List.mem_singleton.mp hlength]
        exact ⟨(by decide : IsToken (ofString "Content-Length")), isSafeHeaderValue_decimal _⟩
      · exact absurd hlength (by simp)
    · split at hconnection
      · exact absurd hconnection (by simp)
      · rw [List.mem_singleton.mp hconnection]
        exact ⟨by decide, by decide⟩
  · exact sendable_of_headerError herror (List.mem_filter.mp hcaller).1

/-- No field of the caller has a reserved name. -/
theorem filter_callerFields {name : List UInt8} (hname : name ∈ reserved) :
    req.callerFields.filter (fun field => lower field.1 = name) = [] := by
  rw [List.filter_eq_nil_iff]
  intro field hfield
  have hnot := (List.mem_filter.mp hfield).2
  rw [decide_eq_true_eq] at hnot ⊢
  rintro rfl
  exact hnot hname

/-- The fields of a reserved name are the connector's own. -/
theorem filter_fields {name : List UInt8} (hname : name ∈ reserved) :
    (req.fields parts keepAlive).filter (fun field => lower field.1 = name) =
      (req.ownFields parts keepAlive).filter fun field => lower field.1 = name := by
  rw [fields, List.filter_append, filter_callerFields hname, List.append_nil]

/-- The connector writes one `Host` field. -/
theorem filter_host : (req.ownFields parts keepAlive).filter
    (fun field => lower field.1 = ofString "host") = [(ofString "Host", req.hostValue parts)] := by
  unfold ownFields
  split <;> split <;> split <;> rfl

/-- The connector writes no `Transfer-Encoding` field. -/
theorem filter_transferEncoding : (req.ownFields parts keepAlive).filter
    (fun field => lower field.1 = ofString "transfer-encoding") = [] := by
  unfold ownFields
  split <;> split <;> split <;> rfl

/-- The connector writes the size of the body where one is needed. -/
theorem filter_contentLength : (req.ownFields parts keepAlive).filter
    (fun field => lower field.1 = ofString "content-length") =
      if req.NeedsContentLength then [(ofString "Content-Length", decimal req.body.length)]
      else [] := by
  unfold ownFields
  split <;> split <;> split <;> rfl

/-- The connector writes at most one `Connection` field. -/
theorem filter_connection : (req.ownFields parts keepAlive).filter
    (fun field => lower field.1 = ofString "connection") =
      if keepAlive then [] else [(ofString "Connection", ofString "close")] := by
  unfold ownFields
  split <;> split <;> split <;> rfl

/-- The head of the text. -/
def head (req : HttpRequest) (parts : HttpUrlParts) (keepAlive : Bool) : RequestHead where
  method := req.methodText
  target := parts.target
  version := ofString "HTTP/1.1"
  fields := req.fields parts keepAlive
  body := req.body

/-- The text is read back to its head. -/
theorem read_text (hmethod : IsToken req.methodText) (htarget : IsSafeRequestPart parts.target)
    (herror : req.headerError = none) (hhost : IsSafeHeaderValue (req.hostValue parts)) :
    RequestHead.read (req.text parts keepAlive) = some (req.head parts keepAlive) := by
  have htext : req.text parts keepAlive =
      requestText req.methodText parts.target (req.fields parts keepAlive) req.body := rfl
  rw [htext, read_requestText hmethod htarget fun _ hfield => sendable herror hhost hfield]
  rfl

/-- The head says what the request does. -/
theorem head_carries : (req.head parts keepAlive).Carries req parts where
  method := rfl
  target := rfl
  version := rfl
  host := by
    change ((req.fields parts keepAlive).filter _).length = 1
    rw [filter_fields (by decide), filter_host]
    rfl
  transferEncoding := by
    change (req.fields parts keepAlive).filter _ = []
    rw [filter_fields (by decide), filter_transferEncoding]
  contentLength_le := by
    change ((req.fields parts keepAlive).filter _).length ≤ 1
    rw [filter_fields (by decide), filter_contentLength]
    split <;> simp
  contentLength_value := by
    intro field hfield
    change field ∈ (req.fields parts keepAlive).filter _ at hfield
    rw [filter_fields (by decide), filter_contentLength] at hfield
    split at hfield
    · rw [List.mem_singleton.mp hfield]
    · exact absurd hfield (by simp)
  contentLength_ne := by
    intro hbody
    change (req.fields parts keepAlive).filter _ ≠ []
    have hneeds : req.NeedsContentLength := Or.inl hbody
    rw [filter_fields (by decide), filter_contentLength, if_pos hneeds]
    exact List.cons_ne_nil _ _
  connection := by
    change ((req.fields parts keepAlive).filter _).length ≤ 1
    rw [filter_fields (by decide), filter_connection]
    split <;> simp
  others := by
    intro field hfield hhost hlength hconnection
    rcases List.mem_append.mp hfield with hown | hcaller
    · simp only [ownFields, List.mem_append, List.mem_singleton] at hown
      rcases hown with ((rfl | hagent) | hsize) | hclose
      · exact absurd (by decide : lower (ofString "Host") = ofString "host") hhost
      · split at hagent
        · exact Or.inr (List.mem_singleton.mp hagent)
        · exact absurd hagent (by simp)
      · split at hsize
        · rw [List.mem_singleton.mp hsize] at hlength
          exact absurd
            (by decide : lower (ofString "Content-Length") = ofString "content-length") hlength
        · exact absurd hsize (by simp)
      · split at hclose
        · exact absurd hclose (by simp)
        · rw [List.mem_singleton.mp hclose] at hconnection
          exact absurd (by decide) hconnection
    · exact Or.inl (List.mem_filter.mp hcaller).1
  body := rfl

end HttpRequest

/-- A request that is built is read back, whatever the caller gave. -/
theorem buildRequestText_carries {req : HttpRequest} {parts : HttpUrlParts} {keepAlive : Bool}
    {out : List UInt8} (h : buildRequestText req parts keepAlive = .ok out) :
    ∃ head, RequestHead.read out = some head ∧ head.Carries req parts := by
  unfold buildRequestText at h
  split at h
  · exact absurd h (by simp)
  · rename_i hmethod
    split at h
    · exact absurd h (by simp)
    · rename_i htarget
      split at h
      · exact absurd h (by simp)
      · rename_i herror
        split at h
        · exact absurd h (by simp)
        · rename_i hhost
          rw [not_not] at hmethod
          rw [not_or, not_not] at htarget hhost
          rw [Except.ok.injEq] at h
          rw [← h, HttpRequest.read_text hmethod htarget.2 herror hhost.2]
          exact ⟨_, rfl, HttpRequest.head_carries⟩

/-- A request whose caller gives fields that the connector writes itself. -/
def framedRequest : HttpRequest where
  method := ofString "POST"
  url := ofString "http://a/b"
  headers := ((∅ : HttpHeaderMap).insert (ofString "X-A") (ofString "1")).insert
    (ofString "transfer-Encoding") (ofString "chunked")
  body := ofString "hi"
  resolvedIp := []

/-- Its text is built and read back. -/
theorem framedRequest_carries :
    ∃ out head, buildRequestText framedRequest ⟨ofString "http", ofString "a", ofString "a", 80,
        ofString "/b", false⟩ false = .ok out ∧ RequestHead.read out = some head ∧
      head.Carries framedRequest ⟨ofString "http", ofString "a", ofString "a", 80,
        ofString "/b", false⟩ := by
  have h : buildRequestText framedRequest ⟨ofString "http", ofString "a", ofString "a", 80,
      ofString "/b", false⟩ false = .ok (framedRequest.text ⟨ofString "http", ofString "a",
        ofString "a", 80, ofString "/b", false⟩ false) := by decide +kernel
  obtain ⟨head, hread, hcarries⟩ := buildRequestText_carries h
  exact ⟨_, head, h, hread, hcarries⟩

end Http
