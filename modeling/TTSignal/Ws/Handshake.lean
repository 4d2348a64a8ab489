import Mathlib.Data.List.Basic
import Mathlib.Data.Int.Notation

/-!
# The answer to the opening handshake

`WSConnection` collects the headers of the response that `llhttp` reads and accepts it if
it switches to the WebSocket protocol. Strings are lists of bytes. A header map is a list
of pairs with different names; nothing depends on its order. The digest behind
`WSAcceptKey` is a parameter.
-/

namespace WS

/-- The bytes of a literal. -/
def literal (s : String) : List UInt8 := s.toList.map fun c => UInt8.ofNat c.toNat

/-- `HttpHeaderMap`. -/
abbrev HttpHeaderMap := List (List UInt8 × List UInt8)

namespace HttpHeaderMap

/-- `find`, with the value that is found. -/
def find (headers : HttpHeaderMap) (key : List UInt8) : Option (List UInt8) := headers.lookup key

/-- `headers[key] = value`. -/
def set (headers : HttpHeaderMap) (key value : List UInt8) : HttpHeaderMap :=
  if headers.any fun h => h.1 = key then
    headers.map fun h => if h.1 = key then (key, value) else h
  else headers ++ [(key, value)]

end HttpHeaderMap

/-- A letter of `_ToLowerAscii` and of `tolower`. -/
def lowerLetter (c : UInt8) : UInt8 := if 0x41 ≤ c ∧ c ≤ 0x5A then c + 0x20 else c

/-- `_ToLowerAscii`. -/
def toLowerAscii (s : List UInt8) : List UInt8 := s.map lowerLetter

/-- What a `const char *` shows of a string: the bytes before the first zero. -/
def cString (s : List UInt8) : List UInt8 := s.takeWhile (· ≠ 0)

/-- `GetLowerCaseHeaders`. -/
def getLowerCaseHeaders (headers : HttpHeaderMap) : HttpHeaderMap :=
  headers.foldl
    (fun out h =>
      let key := (cString h.1).map lowerLetter
      if key = literal "sec-websocket-key" ∨ key = literal "sec-websocket-accept" then
        out.set key h.2
      else out.set key ((cString h.2).map lowerLetter))
    []

/-- A space or a tab. -/
def isBlank (c : UInt8) : Bool := c = 0x20 || c = 0x09

/-- `_HasToken`: one of the pieces between commas is the token, up to blanks around it. -/
def hasToken (listLower token : List UInt8) : Bool :=
  (listLower.splitOn 0x2C).any fun one =>
    one.any (fun c => ! isBlank c) &&
      (((one.dropWhile isBlank).reverse.dropWhile isBlank).reverse = token)

/-- `CheckHandshakeResponse`, with the text of the error; `wsAcceptKey` is
`WSParser::WSAcceptKey`. -/
def checkHandshakeResponse (wsAcceptKey : List UInt8 → List UInt8) (status : ℤ)
    (headers : HttpHeaderMap) (secKey : List UInt8) : Except String Unit :=
  if status ≠ 101 then
    .error ("服务端没有切换协议：期望 101 Switching Protocols，实际 " ++ toString status)
  else if (getLowerCaseHeaders headers).find (literal "upgrade") ≠ some (literal "websocket") then
    .error "握手响应的 Upgrade 头不是 websocket"
  else if ¬ ((getLowerCaseHeaders headers).find (literal "connection")).any
      (hasToken · (literal "upgrade")) then
    .error "握手响应的 Connection 头里没有 upgrade"
  else
    match (getLowerCaseHeaders headers).find (literal "sec-websocket-accept") with
    | none => .error "握手响应缺少 Sec-WebSocket-Accept"
    | some accept =>
      if wsAcceptKey secKey = [] then .error "无法计算 Sec-WebSocket-Accept 的期望值"
      else if accept ≠ wsAcceptKey secKey then
        .error "Sec-WebSocket-Accept 不匹配，服务端可能不是 WebSocket 端点"
      else .ok ()

/-- `kMaxHeaderTotalBytes`. -/
def kMaxHeaderTotalBytes : ℕ := 64 * 1024

/-- `kMaxSingleHeaderBytes`. -/
def kMaxSingleHeaderBytes : ℕ := 16 * 1024

/-- `kMaxHeaderCount`. -/
def kMaxHeaderCount : ℕ := 200

/-- The part of a response that has been read. -/
structure Response where
  /-- `hs_status_`. -/
  hsStatus : ℤ := 0
  /-- `hs_headers_`. -/
  hsHeaders : HttpHeaderMap := []
  /-- `hs_header_bytes_`. -/
  hsHeaderBytes : ℕ := 0
  /-- `cur_field_`. -/
  curField : List UInt8 := []
  /-- `cur_value_`. -/
  curValue : List UInt8 := []
  /-- `last_was_value_`. -/
  lastWasValue : Bool := false
  deriving DecidableEq

/-- What a callback of `llhttp` leaves behind, and the message of `_Fail` if it fails. -/
abbrev Checked := Response × Option String

/-- The next part of a callback is reached if nothing has failed. -/
def Checked.andThen (c : Checked) (next : Response → Checked) : Checked :=
  match c.2 with
  | none => next c.1
  | some _ => c

namespace Response

variable (r : Response)

/-- The header that is being read is over. -/
def headerDone : Response := { r with curField := [], curValue := [], lastWasValue := false }

/-- `_CommitHeader`. -/
def commitHeader : Checked :=
  if r.curField = [] then (r.headerDone, none)
  else
    match r.hsHeaders.find (toLowerAscii r.curField) with
    | none =>
      if r.hsHeaders.length ≥ kMaxHeaderCount then (r, some "握手响应头条数超过上限")
      else
        ({ r with hsHeaders := r.hsHeaders.set (toLowerAscii r.curField) r.curValue }.headerDone,
          none)
    | some value =>
      ({ r with
        hsHeaders := r.hsHeaders.set (toLowerAscii r.curField)
          (value ++ literal ", " ++ r.curValue) }.headerDone, none)

/-- `_ChargeHeaderBytes`. -/
def chargeHeaderBytes (length : ℕ) : Checked :=
  if r.hsHeaderBytes + length > kMaxHeaderTotalBytes then
    (r, some "握手响应头总大小超过上限（防止服务端用无限响应头撑爆内存）")
  else ({ r with hsHeaderBytes := r.hsHeaderBytes + length }, none)

/-- `_CheckSingleHeaderSize`. -/
def checkSingleHeaderSize (incoming : ℕ) : Checked :=
  if r.curField.length + r.curValue.length + incoming > kMaxSingleHeaderBytes then
    (r, some "握手响应里单条头超过上限")
  else (r, none)

/-- `http_on_status`. -/
def onStatus (data : List UInt8) : Checked := r.chargeHeaderBytes data.length

/-- `http_on_header_field`. -/
def onHeaderField (data : List UInt8) : Checked :=
  (if r.lastWasValue then r.commitHeader else (r, none)).andThen fun r =>
    (r.chargeHeaderBytes data.length).andThen fun r =>
      (r.checkSingleHeaderSize data.length).andThen fun r =>
        ({ r with curField := r.curField ++ data }, none)

/-- `http_on_header_value`. -/
def onHeaderValue (data : List UInt8) : Checked :=
  ({ r with lastWasValue := true }.chargeHeaderBytes data.length).andThen fun r =>
    (r.checkSingleHeaderSize data.length).andThen fun r =>
      ({ r with curValue := r.curValue ++ data }, none)

end Response

end WS
