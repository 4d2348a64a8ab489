import TTSignal.Base64
import TTSignal.Http.RequestText

/-!
# The request of the opening handshake

`WSConnection::ParseUrl` puts the scheme of HTTP in the place of `ws` and `wss` and leaves
the rest to the HTTP parser. `BuildHandshakeRequest` writes a request out of the parts of the
URL, the key and the fields that a caller gave. A reader of requests finds one head in it,
with the fields of the handshake written by the connection alone.
-/

namespace WS

open Text
open Http (crlf fieldLine requestText requestLines RequestHead IsToken IsSafeHeaderValue
  IsSafeRequestPart)

/-- `WSUrlParts`. -/
structure WSUrlParts where
  /-- `scheme`. -/
  scheme : List UInt8
  /-- `host`. -/
  host : List UInt8
  /-- `hostHeader`. -/
  hostHeader : List UInt8
  /-- `port`. -/
  port : UInt16
  /-- `target`. -/
  target : List UInt8
  /-- `tls`. -/
  tls : Bool
  deriving DecidableEq

/-- The scheme of HTTP for one of WebSocket. -/
def httpScheme (scheme : List UInt8) : Except (List UInt8) (List UInt8) :=
  if scheme = ofString "ws" then .ok (ofString "http")
  else if scheme = ofString "wss" then .ok (ofString "https")
  else .error (ofString "不支持的 scheme \"" ++ scheme ++ ofString "\"，只支持 ws / wss")

/-- `WSConnection::ParseUrl`: the parts, or the text of the error. -/
def parseUrl (url : List UInt8) : Except (List UInt8) WSUrlParts :=
  match cut (ofString "://") url with
  | none | some ([], _) => .error (ofString "URL 缺少 scheme，期望 ws:// 或 wss://")
  | some (scheme, rest) =>
    match httpScheme (lower scheme) with
    | .error e => .error e
    | .ok http =>
      match Http.parseUrl (http ++ ofString "://" ++ rest) with
      | .error e => .error e
      | .ok hp => .ok ⟨lower scheme, hp.host, hp.hostHeader, hp.port, hp.target, hp.tls⟩

/-- The error of the first header field that cannot be sent. -/
def headerError (extraHeaders : Http.HttpHeaderMap) : Option (List UInt8) :=
  extraHeaders.toList.findSome? fun e =>
    if ¬ IsToken e.1 then
      some (ofString "头名 \"" ++ e.1 ++ ofString "\" 不是合法的 HTTP token")
    else if ¬ IsSafeHeaderValue e.2 then
      some (ofString "头 \"" ++ e.1 ++ ofString "\" 的取值含有 CR/LF/NUL，拒绝发送")
    else none

/-- The names that the connection writes itself or that say where a request ends, and the
names that begin with `sec-websocket-`. -/
def IsReserved (nameLower : List UInt8) : Prop :=
  nameLower = ofString "host" ∨ nameLower = ofString "upgrade" ∨
    nameLower = ofString "connection" ∨ nameLower = ofString "content-length" ∨
      nameLower = ofString "transfer-encoding" ∨
        nameLower.take 14 = ofString "sec-websocket-"

instance (nameLower : List UInt8) : Decidable (IsReserved nameLower) :=
  inferInstanceAs (Decidable (_ ∨ _))

/-- A field with the name of the client is given. -/
def HasUserAgent (extraHeaders : Http.HttpHeaderMap) : Prop :=
  ∃ e ∈ extraHeaders.toList, lower e.1 = ofString "user-agent"

instance (extraHeaders : Http.HttpHeaderMap) : Decidable (HasUserAgent extraHeaders) :=
  List.decidableBEx _ extraHeaders.toList

/-- The fields the connection writes itself. -/
def ownFields (parts : WSUrlParts) (secKey : List UInt8) (extraHeaders : Http.HttpHeaderMap) :
    List (List UInt8 × List UInt8) :=
  [(ofString "Host", parts.hostHeader),
    (ofString "Upgrade", ofString "websocket"),
    (ofString "Connection", ofString "Upgrade"),
    (ofString "Sec-WebSocket-Key", secKey),
    (ofString "Sec-WebSocket-Version", ofString "13")] ++
    if HasUserAgent extraHeaders then []
    else [(ofString "User-Agent", ofString "ttsignal/1.0")]

/-- The fields that are taken from the caller. -/
def callerFields (extraHeaders : Http.HttpHeaderMap) : List (List UInt8 × List UInt8) :=
  extraHeaders.toList.filter fun e => ¬ IsReserved (lower e.1)

/-- The fields of the head in order. -/
def requestFields (parts : WSUrlParts) (secKey : List UInt8)
    (extraHeaders : Http.HttpHeaderMap) : List (List UInt8 × List UInt8) :=
  ownFields parts secKey extraHeaders ++ callerFields extraHeaders

/-- `WSConnection::BuildHandshakeRequest`: the text, or the error. -/
def buildHandshakeRequest (parts : WSUrlParts) (secKey : List UInt8)
    (extraHeaders : Http.HttpHeaderMap) : Except (List UInt8) (List UInt8) :=
  if parts.target = [] ∨ parts.hostHeader = [] then .error (ofString "URL 解析结果不完整")
  else if secKey = [] then .error (ofString "Sec-WebSocket-Key 为空")
  else
    match headerError extraHeaders with
    | some e => .error e
    | none =>
      .ok (requestText (ofString "GET") parts.target (requestFields parts secKey extraHeaders) [])

/-- A key in the characters of Base64. -/
def IsBase64 (s : List UInt8) : Prop :=
  ∀ c ∈ s, c = Base64.pad ∨ ∃ i : Fin 64, c = Base64.char i

instance (s : List UInt8) : Decidable (IsBase64 s) := List.decidableBAll _ s

/-- The head opens a WebSocket connection: it has the target of the URL and one field each of
the handshake, nothing else about WebSocket or about where the request ends, and otherwise
only fields of the caller. -/
structure Opens (head : RequestHead) (parts : WSUrlParts) (secKey : List UInt8)
    (extraHeaders : Http.HttpHeaderMap) : Prop where
  /-- The method is `GET`. -/
  method : head.method = ofString "GET"
  /-- The target is that of the URL. -/
  target : head.target = parts.target
  /-- The version is `HTTP/1.1`. -/
  version : head.version = ofString "HTTP/1.1"
  /-- There is one `Host` field. -/
  host : head.named (ofString "host") = [(ofString "Host", parts.hostHeader)]
  /-- There is one `Upgrade` field. -/
  upgrade : head.named (ofString "upgrade") = [(ofString "Upgrade", ofString "websocket")]
  /-- There is one `Connection` field. -/
  connection : head.named (ofString "connection") = [(ofString "Connection", ofString "Upgrade")]
  /-- There is one `Sec-WebSocket-Key` field. -/
  secWebSocketKey : head.named (ofString "sec-websocket-key") =
    [(ofString "Sec-WebSocket-Key", secKey)]
  /-- There is one `Sec-WebSocket-Version` field. -/
  secWebSocketVersion : head.named (ofString "sec-websocket-version") =
    [(ofString "Sec-WebSocket-Version", ofString "13")]
  /-- There is no other field about WebSocket. -/
  secWebSocketOther : ∀ field ∈ head.fields, ofString "sec-websocket-" <+: lower field.1 →
    lower field.1 = ofString "sec-websocket-key" ∨
      lower field.1 = ofString "sec-websocket-version"
  /-- There is no `Content-Length` field. -/
  contentLength : head.named (ofString "content-length") = []
  /-- There is no `Transfer-Encoding` field. -/
  transferEncoding : head.named (ofString "transfer-encoding") = []
  /-- Every other field is one of the caller's or the default `User-Agent`. -/
  others : ∀ field ∈ head.fields,
    field ∈ extraHeaders.toList ∨ field = (ofString "User-Agent", ofString "ttsignal/1.0") ∨
      lower field.1 ∈ [ofString "host", ofString "upgrade", ofString "connection",
        ofString "sec-websocket-key", ofString "sec-websocket-version"]
  /-- Nothing stands behind the head. -/
  body : head.body = []

/-- The text ends with its only empty line. -/
def EndsOnce (text : List UInt8) : Prop :=
  crlf ++ crlf <:+ text ∧
    ∀ before after, text = before ++ (crlf ++ crlf) ++ after → after = []

section EmptyLine

variable {lines : List (List UInt8)} {before after : List UInt8}

/-- An empty line in front of everything is the last one. -/
theorem eq_nil_of_crlf (hlines : ∀ line ∈ lines, line ≠ [] ∧ 13 ∉ line)
    (h : lines.flatMap (· ++ crlf) ++ crlf = crlf ++ after) : after = [] := by
  cases lines with
  | nil => simpa using h
  | cons line lines =>
    obtain ⟨hne, hcr⟩ := hlines line List.mem_cons_self
    obtain ⟨c, line, rfl⟩ := List.exists_cons_of_ne_nil hne
    rw [List.flatMap_cons, crlf] at h
    simp only [List.cons_append, List.cons.injEq] at h
    exact absurd List.mem_cons_self (h.1 ▸ hcr)

/-- An empty line behind some bytes ends the lines, none of which is empty. -/
theorem eq_nil_of_lines (hlines : ∀ line ∈ lines, line ≠ [] ∧ 13 ∉ line)
    (h : lines.flatMap (· ++ crlf) ++ crlf = before ++ (crlf ++ crlf) ++ after) : after = [] := by
  induction lines generalizing before with
  | nil =>
    have hlength := congrArg List.length h
    have hcrlf : crlf.length = 2 := by decide
    simp only [List.flatMap_nil, List.nil_append, List.length_append, hcrlf] at hlength
    omega
  | cons line lines ih =>
    obtain ⟨-, hcr⟩ := hlines line List.mem_cons_self
    have hrest : ∀ line ∈ lines, line ≠ [] ∧ 13 ∉ line :=
      fun l hl => hlines l (List.mem_cons_of_mem line hl)
    have hsplit : line ++ (crlf ++ (lines.flatMap (· ++ crlf) ++ crlf)) =
        before ++ (crlf ++ (crlf ++ after)) := by
      rw [List.append_assoc, List.append_assoc] at h
      rw [← h, List.flatMap_cons]
      simp only [List.append_assoc]
    -- No carriage return stands in the line, so the empty line begins behind it.
    rcases List.append_eq_append_iff.mp hsplit with ⟨mid, hbefore, hmid⟩ | ⟨mid, hline, hmid⟩
    · match mid with
      | [] => exact eq_nil_of_crlf hrest (List.append_cancel_left hmid)
      | [c] =>
        simp only [crlf, List.cons_append, List.nil_append, List.cons.injEq] at hmid
        exact absurd hmid.2.1 (by decide)
      | c :: d :: mid =>
        simp only [crlf, List.cons_append, List.nil_append, List.cons.injEq] at hmid
        have hbehind : lines.flatMap (· ++ crlf) ++ crlf = mid ++ (crlf ++ crlf) ++ after := by
          rw [List.append_assoc, List.append_assoc]
          exact hmid.2.2
        exact ih hrest hbehind
    · match mid with
      | [] => exact eq_nil_of_crlf hrest (List.append_cancel_left hmid).symm
      | c :: mid =>
        simp only [crlf, List.cons_append, List.cons.injEq] at hmid
        rw [hline, ← hmid.1] at hcr
        exact absurd (List.mem_append_right before List.mem_cons_self) hcr

/-- Behind lines there is an empty line. -/
theorem suffix_lines (hne : lines ≠ []) : crlf ++ crlf <:+ lines.flatMap (· ++ crlf) ++ crlf := by
  obtain ⟨init, last, rfl⟩ := List.eq_nil_or_concat lines |>.resolve_left hne
  refine ⟨init.flatMap (· ++ crlf) ++ last, ?_⟩
  simp only [List.concat_eq_append, List.flatMap_append, List.flatMap_singleton, List.append_assoc]

/-- A request without a body ends with its only empty line. -/
theorem endsOnce_requestText {method target : List UInt8}
    {fields : List (List UInt8 × List UInt8)} (hmethod : IsToken method)
    (htarget : IsSafeRequestPart target)
    (hfields : ∀ field ∈ fields, IsToken field.1 ∧ IsSafeHeaderValue field.2) :
    EndsOnce (requestText method target fields []) := by
  have htext := Http.requestText_eq method target [] fields
  rw [List.append_nil] at htext
  constructor
  · rw [htext]
    exact suffix_lines (List.cons_ne_nil _ _)
  · intro before after hsplit
    exact eq_nil_of_lines (Http.requestLines_spec hmethod htarget hfields) (htext ▸ hsplit)

end EmptyLine

section Fields

variable {parts : WSUrlParts} {secKey url : List UInt8} {extraHeaders : Http.HttpHeaderMap}
  {field : List UInt8 × List UInt8}

/-- Without an error every field of the caller can be sent. -/
theorem sendable_of_headerError (h : headerError extraHeaders = none)
    (hfield : field ∈ extraHeaders.toList) : IsToken field.1 ∧ IsSafeHeaderValue field.2 := by
  have hnone := List.findSome?_eq_none_iff.mp h field hfield
  by_cases htoken : IsToken field.1
  · by_cases hsafe : IsSafeHeaderValue field.2
    · exact ⟨htoken, hsafe⟩
    · simp [htoken, hsafe] at hnone
  · simp [htoken] at hnone

/-- A part of a request is a safe value. -/
theorem IsSafeHeaderValue.of_requestPart {s : List UInt8} (h : IsSafeRequestPart s) :
    IsSafeHeaderValue s := by
  intro c hc
  have hsafe := h c hc
  refine ⟨?_, ?_, ?_⟩
  · rintro rfl
    exact absurd hsafe (by decide)
  · rintro rfl
    exact absurd hsafe (by decide)
  · rintro rfl
    exact absurd hsafe (by decide)

/-- A key in the characters of Base64 is a safe value. -/
theorem IsBase64.safe (h : IsBase64 secKey) : IsSafeHeaderValue secKey := by
  have hchars : ∀ i : Fin 64, Base64.char i ≠ 13 ∧ Base64.char i ≠ 10 ∧ Base64.char i ≠ 0 := by
    decide +kernel
  intro c hc
  rcases h c hc with rfl | ⟨i, rfl⟩
  · decide
  · exact hchars i

/-- The text of the `Host` field is a safe part of a request. -/
theorem isSafeRequestPart_hostForHeader {bracketed : Bool} {host : List UInt8}
    (port defaultPort : UInt16) (hhost : IsSafeRequestPart host) :
    IsSafeRequestPart (Http.hostForHeader bracketed host port defaultPort) := by
  have hdigits : IsSafeRequestPart (decimal port.toNat) := by
    intro c hc
    obtain ⟨hlow, hhigh⟩ := isDigit_of_mem_decimal hc
    rw [UInt8.le_iff_toNat_le] at hlow hhigh
    change 48 ≤ c.toNat at hlow
    change c.toNat ≤ 57 at hhigh
    rintro (hle | rfl)
    · rw [UInt8.le_iff_toNat_le] at hle
      change c.toNat ≤ 32 at hle
      omega
    · revert hhigh
      decide
  intro c hc
  unfold Http.hostForHeader Http.bracket at hc
  rw [List.mem_append] at hc
  rcases hc with hc | hc
  · split at hc
    · simp only [List.cons_append, List.mem_cons, List.mem_append, List.not_mem_nil, or_false] at hc
      rcases hc with rfl | hc | rfl
      · decide
      · exact hhost c hc
      · decide
    · exact hhost c hc
  · split at hc
    · exact absurd hc List.not_mem_nil
    · rcases List.mem_cons.mp hc with rfl | hc
      · decide
      · exact hdigits c hc

/-- The target and the host of a URL are safe. -/
theorem safe_of_parseUrl (h : parseUrl url = .ok parts) :
    IsSafeRequestPart parts.target ∧ IsSafeRequestPart parts.hostHeader := by
  unfold parseUrl at h
  split at h
  · exact absurd h (by simp)
  · exact absurd h (by simp)
  · split at h
    · exact absurd h (by simp)
    · split at h
      · exact absurd h (by simp)
      · rename_i hp hparse
        obtain ⟨f, hvalid, -, rfl⟩ := Http.parseUrl_eq_ok_iff.mp hparse
        rw [Except.ok.injEq] at h
        rw [← h]
        exact ⟨Http.isSafeRequestPart_rawTarget.mpr hvalid.target_safe,
          isSafeRequestPart_hostForHeader _ _ hvalid.host_safe⟩

/-- Every field of the head can be sent. -/
theorem sendable (hhost : IsSafeRequestPart parts.hostHeader) (hkey : IsBase64 secKey)
    (herror : headerError extraHeaders = none)
    (hfield : field ∈ requestFields parts secKey extraHeaders) :
    IsToken field.1 ∧ IsSafeHeaderValue field.2 := by
  rw [requestFields, List.mem_append, ownFields, List.mem_append] at hfield
  rcases hfield with (hown | hagent) | hcaller
  · simp only [List.mem_cons, List.not_mem_nil, or_false] at hown
    rcases hown with rfl | rfl | rfl | rfl | rfl
    · exact ⟨(by decide : IsToken (ofString "Host")), IsSafeHeaderValue.of_requestPart hhost⟩
    · exact ⟨by decide, by decide⟩
    · exact ⟨by decide, by decide⟩
    · exact ⟨(by decide : IsToken (ofString "Sec-WebSocket-Key")), hkey.safe⟩
    · exact ⟨by decide, by decide⟩
  · split at hagent
    · exact absurd hagent List.not_mem_nil
    · rw [List.mem_singleton.mp hagent]
      exact ⟨by decide, by decide⟩
  · exact sendable_of_headerError herror (List.mem_filter.mp hcaller).1

/-- The fields of a reserved name are those of the connection. -/
theorem filter_requestFields {name : List UInt8} (hname : IsReserved name) :
    (requestFields parts secKey extraHeaders).filter (fun field => lower field.1 = name) =
      (ownFields parts secKey extraHeaders).filter fun field => lower field.1 = name := by
  have hcaller : (callerFields extraHeaders).filter (fun field => lower field.1 = name) = [] := by
    rw [List.filter_eq_nil_iff]
    intro field hfield
    have hnot := (List.mem_filter.mp hfield).2
    rw [decide_eq_true_eq] at hnot ⊢
    rintro rfl
    exact hnot hname
  rw [requestFields, List.filter_append, hcaller, List.append_nil]

/-- The head of the text. -/
def requestHead (parts : WSUrlParts) (secKey : List UInt8) (extraHeaders : Http.HttpHeaderMap) :
    RequestHead where
  method := ofString "GET"
  target := parts.target
  version := ofString "HTTP/1.1"
  fields := requestFields parts secKey extraHeaders
  body := []

/-- The fields of a reserved name in the head. -/
theorem named_requestHead {name : List UInt8} (hname : IsReserved name) :
    (requestHead parts secKey extraHeaders).named name =
      (ownFields parts secKey extraHeaders).filter fun field => lower field.1 = name :=
  filter_requestFields hname

/-- A field of the connection has the name of a field of the handshake or is the default
`User-Agent`. -/
theorem name_of_mem_ownFields (hfield : field ∈ ownFields parts secKey extraHeaders) :
    field = (ofString "User-Agent", ofString "ttsignal/1.0") ∨
      lower field.1 ∈ [ofString "host", ofString "upgrade", ofString "connection",
        ofString "sec-websocket-key", ofString "sec-websocket-version"] := by
  rw [ownFields, List.mem_append] at hfield
  rcases hfield with hown | hagent
  · have hname := List.mem_map_of_mem (f := fun field => lower field.1) hown
    exact Or.inr hname
  · split at hagent
    · exact absurd hagent List.not_mem_nil
    · exact Or.inl (List.mem_singleton.mp hagent)

/-- The head opens a connection. -/
theorem requestHead_opens : Opens (requestHead parts secKey extraHeaders) parts secKey
    extraHeaders where
  method := rfl
  target := rfl
  version := rfl
  host := by
    rw [named_requestHead (by decide), ownFields]
    split <;> rfl
  upgrade := by
    rw [named_requestHead (by decide), ownFields]
    split <;> rfl
  connection := by
    rw [named_requestHead (by decide), ownFields]
    split <;> rfl
  secWebSocketKey := by
    rw [named_requestHead (by decide), ownFields]
    split <;> rfl
  secWebSocketVersion := by
    rw [named_requestHead (by decide), ownFields]
    split <;> rfl
  secWebSocketOther := by
    intro field hfield hhead
    rcases List.mem_append.mp hfield with hown | hcaller
    · rcases name_of_mem_ownFields hown with rfl | hname
      · exact absurd hhead (by decide)
      · simp only [List.mem_cons, List.not_mem_nil, or_false] at hname
        rcases hname with h | h | h | h | h
        · exact absurd (h ▸ hhead) (by decide)
        · exact absurd (h ▸ hhead) (by decide)
        · exact absurd (h ▸ hhead) (by decide)
        · exact Or.inl h
        · exact Or.inr h
    · have hnot := (List.mem_filter.mp hcaller).2
      rw [decide_eq_true_eq] at hnot
      have htake : (lower field.1).take 14 = ofString "sec-websocket-" :=
        (List.prefix_iff_eq_take.mp hhead).symm
      exact absurd (Or.inr (Or.inr (Or.inr (Or.inr (Or.inr htake))))) hnot
  contentLength := by
    rw [named_requestHead (by decide), ownFields]
    split <;> rfl
  transferEncoding := by
    rw [named_requestHead (by decide), ownFields]
    split <;> rfl
  others := by
    intro field hfield
    rcases List.mem_append.mp hfield with hown | hcaller
    · exact Or.inr (name_of_mem_ownFields hown)
    · exact Or.inl (List.mem_filter.mp hcaller).1
  body := rfl

end Fields

/-- A request that is built for a URL ends with its only empty line and is read back to a head
that opens the connection, whatever fields the caller gave. -/
theorem buildHandshakeRequest_opens {url secKey out : List UInt8} {parts : WSUrlParts}
    {extraHeaders : Http.HttpHeaderMap} (hurl : parseUrl url = .ok parts)
    (hkey : IsBase64 secKey) (h : buildHandshakeRequest parts secKey extraHeaders = .ok out) :
    EndsOnce out ∧
      ∃ head, RequestHead.read out = some head ∧ Opens head parts secKey extraHeaders := by
  obtain ⟨htarget, hhost⟩ := safe_of_parseUrl hurl
  have hmethod : IsToken (ofString "GET") := by decide
  unfold buildHandshakeRequest at h
  split at h
  · exact absurd h (by simp)
  · split at h
    · exact absurd h (by simp)
    · split at h
      · exact absurd h (by simp)
      · rename_i herror
        rw [Except.ok.injEq] at h
        have hfields : ∀ field ∈ requestFields parts secKey extraHeaders,
            IsToken field.1 ∧ IsSafeHeaderValue field.2 :=
          fun _ hfield => sendable hhost hkey herror hfield
        rw [← h]
        exact ⟨endsOnce_requestText hmethod htarget hfields, requestHead parts secKey extraHeaders,
          Http.read_requestText hmethod htarget hfields, requestHead_opens⟩

/-- Fields of a caller, some with names of the handshake. -/
def forgedHeaders : Http.HttpHeaderMap :=
  (((∅ : Http.HttpHeaderMap).insert (ofString "X-A") (ofString "1")).insert
    (ofString "hOST") (ofString "b")).insert (ofString "Sec-WebSocket-Accept") (ofString "no")

/-- The parts of a URL. -/
def localParts : WSUrlParts :=
  ⟨ofString "ws", ofString "a", ofString "a:81", 81, ofString "/b", false⟩

/-- The request for it is built and read back. -/
theorem forgedHeaders_opens :
    ∃ out, EndsOnce out ∧ ∃ head, RequestHead.read out = some head ∧
      Opens head localParts (ofString "AQ==") forgedHeaders := by
  have hurl : parseUrl (ofString "ws://a:81/b#c") = .ok localParts := by decide +kernel
  have hkey : IsBase64 (ofString "AQ==") := by decide +kernel
  have h : buildHandshakeRequest localParts (ofString "AQ==") forgedHeaders =
      .ok (requestText (ofString "GET") localParts.target
        (requestFields localParts (ofString "AQ==") forgedHeaders) []) := by decide +kernel
  exact ⟨_, buildHandshakeRequest_opens hurl hkey h⟩

end WS
