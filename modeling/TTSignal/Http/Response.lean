import TTSignal.Guarded
import TTSignal.Http.RequestText
import TTSignal.Tcp.Channel
import Mathlib.Data.Finset.Card

/-!
# Putting a response together

The parser of HTTP messages hands an `HttpConnection` the status line, the header fields
and the body in pieces of any size. The connection keeps a half-built field between two
calls and adds it to its map when the next one begins, or at the end of the header or of
the message. It counts what it is given against limits of its own, and starts again after
each interim response.
-/

namespace Http

open Text Tcp Guarded

/-- `kMaxHeaderTotalBytes`. -/
def kMaxHeaderTotalBytes : ℕ := 64 * 1024

/-- `kMaxSingleHeaderBytes`. -/
def kMaxSingleHeaderBytes : ℕ := 16 * 1024

/-- `kMaxHeaderCount`. -/
def kMaxHeaderCount : ℕ := 200

/-- `kMaxReasonBytes`. -/
def kMaxReasonBytes : ℕ := 512

/-- `kMaxInterimResponses`. -/
def kMaxInterimResponses : ℕ := 8

/-- `BC_R_RESPONSE_TOO_LARGE`. -/
def responseTooLarge : BCResult := .other 73

/-- `BC_R_UNEXPECTEDTOKEN`. -/
def unexpectedToken : BCResult := .other 32

/-- What `_Fail` is called with. -/
structure ResponseFailure where
  /-- The result. -/
  result : BCResult
  /-- The message. -/
  message : String
  deriving DecidableEq

/-- `_FailHeaderLimit`. -/
def failHeaderLimit (what : String) (limit : ℕ) (unit : String) : ResponseFailure where
  result := responseTooLarge
  message := what ++ "超过上限（" ++ toString limit ++ " " ++ unit ++ "），已中断。" ++
    "这类上限独立于 maxResponseBytes，用于防止服务端用无限响应头撑爆内存"

/-- The settings of a request and its connector. -/
structure ResponseSettings where
  /-- `head_request_`. -/
  headRequest : Bool
  /-- `max_response_bytes_`. -/
  maxResponseBytes : ℕ

/-- The part of an `HttpConnection` that puts the response together. -/
structure Assembly where
  /-- `cur_field_`. -/
  curField : List UInt8
  /-- `cur_value_`. -/
  curValue : List UInt8
  /-- `last_was_value_`. -/
  lastWasValue : Bool
  /-- `reason_phrase_`. -/
  reasonPhrase : List UInt8
  /-- `headers_`. -/
  headers : HttpHeaderMap
  /-- `body_`. -/
  body : List UInt8
  /-- `status_`. -/
  status : ℕ
  /-- `header_bytes_`. -/
  headerBytes : ℕ
  /-- `interim_`. -/
  interim : Bool
  /-- `interim_count_`. -/
  interimCount : ℕ
  /-- `message_done_`. -/
  messageDone : Bool
  /-- `keep_alive_`. -/
  keepAlive : Bool

/-- Add a field to a map: the values of a name are joined in order. -/
def HttpHeaderMap.add (headers : HttpHeaderMap) (key value : List UInt8) : HttpHeaderMap :=
  match headers[key]? with
  | none => headers.insert key value
  | some old => headers.insert key (old ++ ofString ", " ++ value)

namespace Assembly

/-- A connection that has received nothing, after the given number of interim responses. -/
def fresh (interimCount : ℕ) : Assembly where
  curField := []
  curValue := []
  lastWasValue := false
  reasonPhrase := []
  headers := ∅
  body := []
  status := 0
  headerBytes := 0
  interim := false
  interimCount := interimCount
  messageDone := false
  keepAlive := false

variable (s : Assembly)

/-- `_ChargeHeaderBytes`. -/
def chargeHeaderBytes (length : ℕ) : Except ResponseFailure Assembly :=
  if s.headerBytes + length ≤ kMaxHeaderTotalBytes then
    .ok { s with headerBytes := s.headerBytes + length }
  else .error (failHeaderLimit "响应头总大小" kMaxHeaderTotalBytes "字节")

/-- `_CheckSingleHeaderSize`. -/
def checkSingleHeaderSize (incoming : ℕ) : Except ResponseFailure Assembly :=
  if s.curField.length + s.curValue.length + incoming ≤ kMaxSingleHeaderBytes then .ok s
  else .error (failHeaderLimit "单条响应头" kMaxSingleHeaderBytes "字节")

/-- No field is half built. -/
def cleared : Assembly := { s with curField := [], curValue := [], lastWasValue := false }

/-- `_CommitHeader`. -/
def commitHeader : Except ResponseFailure Assembly :=
  if s.curField = [] then .ok s.cleared
  else if lower s.curField ∈ s.headers ∨ s.headers.size < kMaxHeaderCount then
    .ok { s.cleared with headers := HttpHeaderMap.add s.headers (lower s.curField) s.curValue }
  else .error (failHeaderLimit "响应头条数" kMaxHeaderCount "条")

/-- `_ResetMessageState`. -/
def resetMessageState : Assembly :=
  { s.cleared with reasonPhrase := [], headers := ∅, body := [], status := 0, headerBytes := 0 }

/-- `http_on_status`. -/
def httpOnStatus (data : List UInt8) : Except ResponseFailure Assembly := do
  let s ← s.chargeHeaderBytes data.length
  if s.reasonPhrase.length + data.length ≤ kMaxReasonBytes then
    .ok { s with reasonPhrase := s.reasonPhrase ++ data }
  else .error (failHeaderLimit "status line 的 reason-phrase" kMaxReasonBytes "字节")

/-- Charge for a piece of a field and check the size of the field. -/
def charge (length : ℕ) : Except ResponseFailure Assembly :=
  s.chargeHeaderBytes length >>= fun s => s.checkSingleHeaderSize length

/-- `http_on_header_field`. -/
def httpOnHeaderField (data : List UInt8) : Except ResponseFailure Assembly := do
  let s ← if s.lastWasValue then s.commitHeader else .ok s
  let s ← s.charge data.length
  .ok { s with curField := s.curField ++ data }

/-- `http_on_header_value`. -/
def httpOnHeaderValue (data : List UInt8) : Except ResponseFailure Assembly := do
  let s ← { s with lastWasValue := true }.charge data.length
  .ok { s with curValue := s.curValue ++ data }

/-- `http_on_headers_complete`; the number is what it returns, which for `1` makes the parser
skip the body. -/
def httpOnHeadersComplete (cfg : ResponseSettings) (statusCode : ℕ) :
    Except ResponseFailure (Assembly × ℕ) := do
  let s ← s.commitHeader
  if 100 ≤ statusCode ∧ statusCode < 200 then
    if s.interimCount + 1 ≤ kMaxInterimResponses then
      .ok ({ s with interimCount := s.interimCount + 1, interim := true }.resetMessageState, 0)
    else
      .error ⟨unexpectedToken, "服务端连续发了超过 " ++ toString kMaxInterimResponses ++
        " 条 1xx 中间响应，判为异常"⟩
  else
    .ok ({ s with status := statusCode },
      if cfg.headRequest ∨ statusCode = 204 ∨ statusCode = 304 then 1 else 0)

/-- `http_on_body`. -/
def httpOnBody (cfg : ResponseSettings) (data : List UInt8) : Except ResponseFailure Assembly :=
  if s.body.length + data.length ≤ cfg.maxResponseBytes then
    .ok { s with body := s.body ++ data }
  else
    .error ⟨responseTooLarge, "响应体超过 maxResponseBytes 上限（" ++
      toString cfg.maxResponseBytes ++ " 字节），已中断"⟩

/-- `http_on_message_complete`. -/
def httpOnMessageComplete (statusCode : ℕ) (shouldKeepAlive : Bool) :
    Except ResponseFailure Assembly :=
  if s.interim then .ok { s with interim := false }
  else do
    let s ← s.commitHeader
    .ok { s with
      status := if s.status = 0 then statusCode else s.status
      messageDone := true
      keepAlive := shouldKeepAlive }

end Assembly

/-- A call of the parser; it also says what `status_code` and `llhttp_should_keep_alive`
are then. -/
inductive Callback where
  | status (data : List UInt8)
  | headerField (data : List UInt8)
  | headerValue (data : List UInt8)
  | headersComplete (statusCode : ℕ)
  | body (data : List UInt8)
  | messageComplete (statusCode : ℕ) (shouldKeepAlive : Bool)

/-- One call. -/
def Assembly.handle (cfg : ResponseSettings) (s : Assembly) :
    Callback → Except ResponseFailure Assembly
  | .status data => s.httpOnStatus data
  | .headerField data => s.httpOnHeaderField data
  | .headerValue data => s.httpOnHeaderValue data
  | .headersComplete statusCode =>
    s.httpOnHeadersComplete cfg statusCode >>= fun r => .ok r.1
  | .body data => s.httpOnBody cfg data
  | .messageComplete statusCode shouldKeepAlive =>
    s.httpOnMessageComplete statusCode shouldKeepAlive

/-- Successive calls; the parser stops at the first that fails. -/
def Assembly.handleAll (cfg : ResponseSettings) (s : Assembly) (calls : List Callback) :
    Except ResponseFailure Assembly :=
  calls.foldlM (Assembly.handle cfg) s

/-- A field as the parser hands it over: its name in at least one piece, none of them empty,
and its value in at least one piece. -/
structure FieldPieces where
  /-- The pieces of the name. -/
  names : List (List UInt8)
  /-- The pieces of the value. -/
  values : List (List UInt8)
  /-- There is one for the name. -/
  names_ne : names ≠ []
  /-- None of these is empty. -/
  name_ne : ∀ data ∈ names, data ≠ []
  /-- There is one for the value. -/
  values_ne : values ≠ []

namespace FieldPieces

/-- The field. -/
def field (f : FieldPieces) : List UInt8 × List UInt8 := (f.names.flatten, f.values.flatten)

/-- The calls that hand it over. -/
def calls (f : FieldPieces) : List Callback :=
  f.names.map .headerField ++ f.values.map .headerValue

end FieldPieces

/-- An interim response other than `101`, in pieces. -/
structure Interim where
  /-- The status code. -/
  statusCode : ℕ
  /-- The pieces of the reason phrase. -/
  reason : List (List UInt8)
  /-- The header fields. -/
  fields : List FieldPieces
  /-- Whether the connection could be kept. -/
  shouldKeepAlive : Bool
  /-- The code is one of an interim response. -/
  code : 100 ≤ statusCode ∧ statusCode < 200 ∧ statusCode ≠ 101

/-- A final response in pieces. -/
structure Message where
  /-- The status code. -/
  statusCode : ℕ
  /-- The pieces of the reason phrase. -/
  reason : List (List UInt8)
  /-- The header fields. -/
  fields : List FieldPieces
  /-- The pieces of the body. -/
  body : List (List UInt8)
  /-- The trailer fields. -/
  trailers : List FieldPieces
  /-- Whether the connection can be kept. -/
  shouldKeepAlive : Bool
  /-- The code is not one of an interim response. -/
  code : ¬ (100 ≤ statusCode ∧ statusCode < 200)

/-- The calls that hand over an interim response. -/
def Interim.calls (m : Interim) : List Callback :=
  m.reason.map .status ++ m.fields.flatMap FieldPieces.calls ++
    [.headersComplete m.statusCode, .messageComplete m.statusCode m.shouldKeepAlive]

/-- The calls that hand over a final response. -/
def Message.calls (m : Message) : List Callback :=
  m.reason.map .status ++ m.fields.flatMap FieldPieces.calls ++
    [.headersComplete m.statusCode] ++ m.body.map .body ++
      m.trailers.flatMap FieldPieces.calls ++ [.messageComplete m.statusCode m.shouldKeepAlive]

end Http
