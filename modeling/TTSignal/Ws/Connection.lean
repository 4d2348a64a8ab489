import TTSignal.Ws.Handshake
import TTSignal.Ws.Frames

/-!
# A WebSocket connection

`WSConnection` handles the events of its channel on one thread: the channel is ready, bytes
have come, a timer has fired, the channel is closed. Handling an event changes the fields
of the connection and asks for effects, which are carried out one after the other; a
callback takes the lock of the connector and looks at `handler_` again. Between two effects
other threads may close the connection, send, or take the handler away.

`llhttp` and the frame parser are parameters of the connection: what `llhttp_execute` does
with a piece of data is a tree of callbacks, each with a result it goes on with.
-/

namespace WS

/-- `BCRESULT`. -/
abbrev BCRESULT := ℤ

/-- `BC_R_SUCCESS`. -/
def bcrSuccess : BCRESULT := 0

/-- `BC_R_UNEXPECTEDEND`. -/
def bcrUnexpectedEnd : BCRESULT := 24

/-- `BC_R_UNEXPECTEDTOKEN`. -/
def bcrUnexpectedToken : BCRESULT := 32

/-- `BC_R_UNEXPECTED`. -/
def bcrUnexpected : BCRESULT := 34

/-- `BC_R_IDLE_TIMEOUT`, after the 65 codes of the library. -/
def bcrIdleTimeout : BCRESULT := 66

/-- `BC_R_CONNECT_TIMEOUT`. -/
def bcrConnectTimeout : BCRESULT := 67

/-- `BC_R_WS_HANDSHAKE_FAILED`. -/
def bcrWsHandshakeFailed : BCRESULT := 74

/-- `kWSCloseNormal`. -/
def kWSCloseNormal : UInt16 := 1000

/-- `kWSCloseProtocol`. -/
def kWSCloseProtocol : UInt16 := 1002

/-- `kMinCheckIntervalMs`. -/
def kMinCheckIntervalMs : ℕ := 500

/-- The callbacks of `IWSConnectionHandler`. -/
inductive Callback where
  | onConnectResult (result : BCRESULT) (headers : HttpHeaderMap)
  | onRecvText (text : List UInt8)
  | onRecvData (data : List UInt8)
  | onException (e : BCException)
  | onClosed (text : String)
  deriving DecidableEq

/-- What a connection does to the outside. -/
inductive Effect where
  /-- The handler is called, if there is one. -/
  | deliver (callback : Callback)
  /-- The handshake request is sent. -/
  | sendRequest (request : List UInt8)
  /-- A frame is sent. -/
  | sendFrame (opcode : UInt8) (payload : List UInt8)
  /-- `channel_->Close()`. -/
  | closeChannel
  /-- `channel_` is cleared, and the task that deletes the channel is posted. -/
  | release
  deriving DecidableEq

/-- The callback of an effect. -/
def Effect.callback? : Effect → Option Callback
  | .deliver callback => some callback
  | _ => none

/-- The callbacks of `llhttp`. -/
inductive HttpCallback where
  | onUrl (data : List UInt8)
  | onStatus (data : List UInt8)
  | onHeaderField (data : List UInt8)
  | onHeaderValue (data : List UInt8)
  | onHeadersComplete (statusCode : ℤ)
  | onBody (data : List UInt8)
  | onMessageComplete

/-- `llhttp_errno_t`: two codes that are looked at, and the others with their name and
`llhttp_get_error_reason`. -/
inductive HttpErrno where
  | ok
  | pausedUpgrade
  | other (name reason : String)

/-- What `llhttp_execute` does with a piece of data. -/
inductive Execution (L : Type) where
  /-- It returns, with the distance of the error position from the start of the data, if
  the position is behind it. -/
  | done (err : HttpErrno) (pos : Option ℕ) (parser : L)
  /-- It calls back and goes on with what the callback returns. -/
  | call (callback : HttpCallback) (next : ℤ → Execution L)

/-- What ends `ParseWSFrame` early. -/
inductive Thrown where
  | bcException (e : BCException)
  | other

/-- What a connection is built on: a parser of responses with states `L`, a parser of frames
with states `P`, the digest of the handshake and the texts of result codes. -/
structure Parsers (L P : Type) where
  /-- `llhttp_execute`. -/
  execute : L → List UInt8 → Execution L
  /-- `llhttp_resume_after_upgrade`. -/
  resumeAfterUpgrade : L → L
  /-- `ParseWSFrame`: the frames it hands over, what it throws, and the state it leaves. -/
  parseWSFrame : P → List UInt8 → List Frame × Option Thrown × P
  /-- `WSParser::WSAcceptKey`. -/
  wsAcceptKey : List UInt8 → List UInt8
  /-- `bc_result2string`. -/
  bcResult2String : BCRESULT → String

/-- `WSConnection::Config`, as far as it is looked at here. -/
structure Config where
  /-- `pingIntervalMs`. -/
  pingIntervalMs : ℕ
  /-- `idleTimeoutMs`. -/
  idleTimeoutMs : ℕ
  /-- `connectTimeoutMs`. -/
  connectTimeoutMs : ℕ

/-- The fields that the events of the channel and the calls of the application work on. -/
structure Session (L P : Type) where
  /-- `config_`. -/
  config : Config
  /-- `channel_` is not null. -/
  channel : Bool := true
  /-- `sec_key_`. -/
  secKey : List UInt8 := []
  /-- `req_text_`. -/
  reqText : List UInt8 := []
  /-- `timeout_ms_`. -/
  timeoutMs : ℕ := 10000
  /-- The state of `llhttp`. -/
  http : L
  /-- The state of `WSParser`. -/
  parser : P
  /-- The response as far as it has been read. -/
  response : Response := {}
  /-- `upgraded_`. -/
  upgraded : Bool := false
  /-- `fail_result_`. -/
  failResult : BCRESULT := bcrSuccess
  /-- `fail_message_`. -/
  failMessage : String := ""
  /-- `delivered_`. -/
  delivered : Bool := false
  /-- `connect_notified_`. -/
  connectNotified : Bool := false
  /-- `connected_ok_`. -/
  connectedOk : Bool := false
  /-- `peer_closed_frame_`. -/
  peerClosedFrame : Bool := false
  /-- `close_code_`. -/
  closeCode : UInt16 := 0
  /-- `user_closed_`. -/
  userClosed : Bool := false
  /-- `user_close_result_`. -/
  userCloseResult : BCRESULT := bcrSuccess
  /-- `close_frame_sent_`. -/
  closeFrameSent : Bool := false
  /-- `hs_timer_` is set. -/
  hsTimer : Bool := false
  /-- `check_timer_` is set. -/
  checkTimer : Bool := false
  /-- `latest_net_action_ms_`. -/
  latestNetActionMs : ℕ := 0
  /-- `last_ping_sent_ms_`. -/
  lastPingSentMs : ℕ := 0
  /-- The effects asked for, in order. -/
  effects : List Effect := []

namespace Session

variable {L P : Type} (E : Parsers L P) (s : Session L P)

/-- Ask for an effect. -/
def ask (e : Effect) : Session L P := { s with effects := s.effects ++ [e] }

/-- `channel_->Close()`, if there is a channel. -/
def closeChannel : Session L P := if s.channel then s.ask .closeChannel else s

/-- `_Fail`. -/
def fail (result : BCRESULT) (message : String) : Session L P :=
  (if s.failResult = bcrSuccess then { s with failResult := result, failMessage := message }
    else s).closeChannel

/-- `_SendFrame`; the frame gets a random mask. -/
def sendFrame (opcode : UInt8) (payload : List UInt8) : Session L P :=
  if ¬ s.upgraded then s
  else if isControl opcode ∧ payload.length > wsMaxControlPayload then s
  else if ¬ s.channel then s
  else s.ask (.sendFrame opcode payload)

/-- `_SendCloseFrame`. -/
def sendCloseFrame (code : UInt16) : Session L P :=
  if s.closeFrameSent then s
  else
    { s with closeFrameSent := true }.sendFrame wsOpClose [(code >>> 8).toUInt8, code.toUInt8]

/-- The fields that `Close` sets; the first failure is kept. -/
def markClosed (result : BCRESULT) : Session L P :=
  { s with
    userCloseResult := if s.userCloseResult = bcrSuccess then result else s.userCloseResult
    userClosed := true }

/-- `Close`. -/
def close (result : BCRESULT) : Session L P :=
  (if s.upgraded then (s.markClosed result).sendCloseFrame kWSCloseNormal
    else s.markClosed result).closeChannel

/-- The fields that `_DeliverConnectResult` sets. -/
def notify (result : BCRESULT) : Session L P :=
  { s with connectNotified := true, connectedOk := s.connectedOk || result == bcrSuccess }

/-- `_DeliverConnectResult`. -/
def deliverConnectResult (result : BCRESULT) : Session L P :=
  if s.connectNotified then s
  else (s.notify result).ask (.deliver (.onConnectResult result s.response.hsHeaders))

/-- `_CloseReasonText`. -/
def closeReasonText (result : BCRESULT) (raw : String) : String :=
  if s.peerClosedFrame then
    "对端发起关闭握手（code=" ++ toString s.closeCode.toNat ++ "）"
  else if result = bcrIdleTimeout then "空闲超时"
  else if result = bcrConnectTimeout then if raw = "" then "连接超时" else raw
  else if result = bcrSuccess then if s.userClosed then "调用方主动关闭" else "对端正常关闭"
  else
    (if raw = "" then E.bcResult2String result else raw) ++ "[code:" ++ toString result ++ "]"

/-- The result and the message of `_DeliverOnce`: the first failure, else what the
application closed with, else what the channel was closed with. -/
def closeOutcome (closeResult : BCRESULT) (closeReason : String) : BCRESULT × String :=
  if s.failResult ≠ bcrSuccess then (s.failResult, s.failMessage)
  else if s.userCloseResult ≠ bcrSuccess then
    (s.userCloseResult, E.bcResult2String s.userCloseResult)
  else if closeResult ≠ bcrSuccess then (closeResult, closeReason)
  else (bcrSuccess, s.failMessage)

/-- The fields that `_DeliverOnce` sets. -/
def ended : Session L P := { s with delivered := true, hsTimer := false, checkTimer := false }

/-- The end of `_DeliverOnce`. -/
def deliverEnd (result : BCRESULT) (message : String) : Session L P :=
  if ¬ s.connectedOk then
    s.deliverConnectResult (if result = bcrSuccess then bcrUnexpectedEnd else result)
  else s.ask (.deliver (.onClosed (s.closeReasonText E result message)))

/-- `_DeliverOnce`. -/
def deliverOnce (closeResult : BCRESULT) (closeReason : String) : Session L P :=
  if s.delivered then s
  else
    s.ended.deliverEnd E (s.closeOutcome E closeResult closeReason).1
      (s.closeOutcome E closeResult closeReason).2

/-- The code of a close frame. -/
def codeOf (payload : List UInt8) : UInt16 :=
  match payload with
  | hi :: lo :: _ => (hi.toUInt16 <<< 8) ||| lo.toUInt16
  | _ => kWSCloseNormal

/-- `OnRecvWSFrame`. A text reaches the handler as a C string. -/
def onRecvWSFrame (frame : Frame) : Session L P :=
  if frame.1.opcode = wsOpText then s.ask (.deliver (.onRecvText (cString frame.2)))
  else if frame.1.opcode = wsOpBinary then s.ask (.deliver (.onRecvData frame.2))
  else if frame.1.opcode = wsOpPing then s.sendFrame wsOpPong frame.2
  else if frame.1.opcode = wsOpClose then
    ({ s with peerClosedFrame := true, closeCode := codeOf frame.2 }.sendCloseFrame
      (codeOf frame.2)).closeChannel
  else s

/-- The handlers of `_FeedFrames` for what `ParseWSFrame` throws. -/
def onThrown : Thrown → Session L P
  | .bcException e =>
    ((s.ask (.deliver (.onException e))).sendCloseFrame kWSCloseProtocol).fail
      bcrUnexpectedToken ("WebSocket 帧解析失败：" ++ e.reason)
  | .other => s.fail bcrUnexpected "WebSocket 帧解析时发生未知异常"

/-- What `ParseWSFrame` hands over is handled, and then what it throws. -/
def onParsed : List Frame × Option Thrown × P → Session L P
  | (frames, none, parser) => frames.foldl onRecvWSFrame { s with parser := parser }
  | (frames, some e, parser) =>
    (frames.foldl onRecvWSFrame { s with parser := parser }).onThrown e

/-- `_FeedFrames`. -/
def feedFrames (data : List UInt8) : Session L P := s.onParsed (E.parseWSFrame s.parser data)

/-- More of the response has been read. -/
def withResponse (r : Response) : Session L P := { s with response := r }

/-- A callback that only works on the response. -/
def checked (c : Checked) : ℤ × Session L P :=
  match c.2 with
  | none => (0, s.withResponse c.1)
  | some message => (-1, (s.withResponse c.1).fail bcrUnexpectedToken message)

/-- The interval of the periodic check, 0 if there is none. -/
def checkInterval (config : Config) : ℕ :=
  if config.idleTimeoutMs > 0 ∧
      (config.pingIntervalMs = 0 ∨ config.idleTimeoutMs < config.pingIntervalMs) then
    max config.idleTimeoutMs kMinCheckIntervalMs
  else if config.pingIntervalMs > 0 then max config.pingIntervalMs kMinCheckIntervalMs
  else 0

/-- The periodic check is scheduled; if that fails, the timer does not fire. -/
def scheduleCheck (now : ℕ) : Session L P :=
  if checkInterval s.config > 0 then
    { s with lastPingSentMs := now, latestNetActionMs := now, checkTimer := true }
  else s

/-- The protocols are changed. -/
def upgrade : Session L P := { s with hsTimer := false, upgraded := true }

/-- The response has been accepted. -/
def accept (now : ℕ) : Session L P :=
  (s.upgrade.deliverConnectResult bcrSuccess).scheduleCheck now

/-- The headers of the response are checked. -/
def checkResponse (now : ℕ) : ℤ × Session L P :=
  match checkHandshakeResponse E.wsAcceptKey s.response.hsStatus s.response.hsHeaders
      s.secKey with
  | .error err => (-1, s.fail bcrWsHandshakeFailed err)
  | .ok () => (0, s.accept now)

/-- Headers that pass the check are accepted. -/
theorem checkResponse_of_ok {now : ℕ} (h : checkHandshakeResponse E.wsAcceptKey
    s.response.hsStatus s.response.hsHeaders s.secKey = .ok ()) :
    s.checkResponse E now = (0, s.accept now) := by
  rw [checkResponse, h]

/-- Headers that do not pass the check end the connection. -/
theorem checkResponse_of_error {now : ℕ} {e : String} (h : checkHandshakeResponse E.wsAcceptKey
    s.response.hsStatus s.response.hsHeaders s.secKey = .error e) :
    s.checkResponse E now = (-1, s.fail bcrWsHandshakeFailed e) := by
  rw [checkResponse, h]

/-- `http_on_headers_complete`. -/
def onHeadersComplete (now : ℕ) (statusCode : ℤ) : ℤ × Session L P :=
  match s.response.commitHeader with
  | (r, some message) => (-1, (s.withResponse r).fail bcrUnexpectedToken message)
  | (r, none) => (s.withResponse { r with hsStatus := statusCode }).checkResponse E now

/-- A callback of `llhttp`. -/
def onHttp (now : ℕ) : HttpCallback → ℤ × Session L P
  | .onUrl _ => (0, s)
  | .onStatus data => s.checked (s.response.onStatus data)
  | .onHeaderField data => s.checked (s.response.onHeaderField data)
  | .onHeaderValue data => s.checked (s.response.onHeaderValue data)
  | .onHeadersComplete statusCode => s.onHeadersComplete E now statusCode
  | .onBody _ => (0, s)
  | .onMessageComplete => (0, s)

/-- What `llhttp_execute` leaves behind. -/
def runHttp (now : ℕ) : Session L P → Execution L → Session L P × HttpErrno × Option ℕ
  | s, .done err pos parser => ({ s with http := parser }, err, pos)
  | s, .call callback next =>
    runHttp now (s.onHttp E now callback).2 (next (s.onHttp E now callback).1)

/-- The bytes behind the response go to the frame parser. -/
def feedRest (data : List UInt8) (consumed : ℕ) : Session L P :=
  if s.upgraded ∧ data.length > consumed then s.feedFrames E (data.drop consumed) else s

/-- `llhttp` is resumed. -/
def resume : Session L P := { s with http := E.resumeAfterUpgrade s.http }

/-- The end of `OnChannelData` behind `llhttp_execute`. A message about a response that
cannot be parsed is cut after 255 bytes; no callback shows it. -/
def afterHttp (data : List UInt8) (err : HttpErrno) (pos : Option ℕ) : Session L P :=
  match err with
  | .ok => s.feedRest E data data.length
  | .pausedUpgrade =>
    if ¬ s.upgraded then
      if s.failResult = bcrSuccess then
        s.fail bcrUnexpected "服务端要求升级协议，但握手校验未通过"
      else s.fail s.failResult s.failMessage
    else (s.resume E).feedRest E data (pos.getD 0)
  | .other name reason =>
    if s.failResult ≠ bcrSuccess then s.fail s.failResult s.failMessage
    else
      s.fail bcrUnexpectedToken
        ("WebSocket 握手响应解析失败：" ++ name ++ "（" ++ reason ++ "）")

/-- `_TouchNetAction`. -/
def touch (now : ℕ) : Session L P := { s with latestNetActionMs := now }

/-- `OnChannelData` before the protocols are changed. -/
def readResponse (now : ℕ) (data : List UInt8) : Session L P :=
  match s.runHttp E now (E.execute s.http data) with
  | (t, err, pos) => t.afterHttp E data err pos

/-- `OnChannelData`. -/
def onChannelData (now : ℕ) (data : List UInt8) : Session L P :=
  if s.delivered then s.touch now
  else if s.upgraded then (s.touch now).feedFrames E data
  else (s.touch now).readResponse E now data

/-- `OnChannelReady`, with the results of `Send` and of `ScheduleTask`. -/
def onChannelReady (now : ℕ) (sent scheduled : BCRESULT) : Session L P :=
  if sent ≠ bcrSuccess then (s.touch now).fail sent "WebSocket 握手请求发送失败"
  else if scheduled ≠ bcrSuccess then
    ((s.touch now).ask (.sendRequest s.reqText)).fail bcrUnexpected
      "握手超时定时器创建失败，无法保证连接不会永久挂起，主动终止"
  else { (s.touch now).ask (.sendRequest s.reqText) with hsTimer := true }

/-- `OnChannelClosed`. -/
def onChannelClosed (result : BCRESULT) (reason : String) : Session L P :=
  (s.deliverOnce E result reason).ask .release

/-- The task of `hs_timer_`. -/
def onHandshakeTimeout : Session L P :=
  s.fail bcrConnectTimeout
    ("WebSocket 握手响应超时：整次连接超过 " ++ toString s.timeoutMs ++ " ms")

/-- `_OnActiveCheck`; the payload of a ping is the time. -/
def onActiveCheck (now : ℕ) : Session L P :=
  if s.config.idleTimeoutMs > 0 ∧ now ≥ s.latestNetActionMs + s.config.idleTimeoutMs then
    s.close bcrIdleTimeout
  else if s.config.pingIntervalMs > 0 ∧ now ≥ s.lastPingSentMs + s.config.pingIntervalMs then
    { s with lastPingSentMs := now }.sendFrame wsOpPing (Bytes.beBytes 8 now)
  else s

end Session

/-- What the channel calls back with. -/
inductive ChannelEvent where
  | ready (sent scheduled : BCRESULT)
  | data (data : List UInt8)
  | closed (result : BCRESULT) (reason : String)
  | handshakeTimeout
  | activeCheck

/-- An event of the channel is handled. -/
def Session.onEvent {L P : Type} (E : Parsers L P) (s : Session L P) (now : ℕ) :
    ChannelEvent → Session L P
  | .ready sent scheduled => s.onChannelReady now sent scheduled
  | .data data => s.onChannelData E now data
  | .closed result reason => s.onChannelClosed E result reason
  | .handshakeTimeout => if s.hsTimer then s.onHandshakeTimeout else s
  | .activeCheck => if s.checkTimer then s.onActiveCheck now else s

/-- How far a call of `Connect` has come. -/
inductive Connecting where
  /-- There is no call. -/
  | idle
  /-- `connect_called_` has been set. -/
  | preparing
  /-- The channel is being opened. -/
  | opening
  /-- The channel has been opened; `closing` is still to be looked at. -/
  | checking
  deriving DecidableEq

/-- What comes of the preparations of `Connect`. -/
inductive Prepared where
  /-- The call comes from a log callback, or the URL or a header is refused. -/
  | refused
  /-- The key and the text of the request, and the timeout of the call. -/
  | request (secKey reqText : List UInt8) (timeOutInMillisec : ℕ)

/-- How far the callback of an effect has come. -/
inductive Dispatch where
  | idle
  /-- The lock has been left with the handler in hand. -/
  | armed (callback : Callback)
  | running
  deriving DecidableEq

/-- `WSConnection`. -/
structure WSConnection (L P : Type) where
  /-- `handler_` is not null. -/
  handler : Bool
  /-- `connect_called_`. -/
  connectCalled : Bool := false
  /-- `channel_opened_`. -/
  channelOpened : Bool := false
  /-- The call of `Connect` in progress. -/
  connecting : Connecting := .idle
  /-- The channel has been opened, so it may call back. -/
  live : Bool := false
  /-- The fields the events work on. -/
  session : Session L P
  /-- What is left to be done for the event being handled. -/
  pending : List Effect := []
  /-- The callback in progress. -/
  dispatch : Dispatch := .idle
  /-- The effects carried out so far; a callback counts when it starts. -/
  trace : List Effect := []

/-- What happens to a connection. -/
inductive Input where
  /-- `Connect` is called. -/
  | connect
  /-- The URL is parsed and the request is built. -/
  | prepare (now : ℕ) (prepared : Prepared)
  /-- `TcpChannel::Open` returns. -/
  | openReturned (result : BCRESULT)
  /-- The end of `Connect` looks at `closing`. -/
  | checkClosing (closing : Bool)
  /-- The channel calls back. -/
  | event (now : ℕ) (e : ChannelEvent)
  /-- The next effect of the event is carried out. -/
  | perform
  /-- The callback starts. -/
  | start
  /-- The callback returns. -/
  | callbackReturned
  /-- `Close` is called. -/
  | close (result : BCRESULT)
  /-- `SendText`, `SendData`, `SendPacket` or `SendPing` is called. -/
  | send (opcode : UInt8) (payload : List UInt8)
  /-- `ClearHandlerLocked`. -/
  | clearHandler

namespace WSConnection

variable {L P : Type} (E : Parsers L P) (c : WSConnection L P)

/-- `Create`; the parsers are in their first state. -/
def create (config : Config) (http : L) (parser : P) (handler : Bool) : WSConnection L P :=
  { handler := handler, session := { config := config, http := http, parser := parser } }

/-- `Connect` up to the test of `connect_called_`. -/
def connect : WSConnection L P :=
  if c.connectCalled then c else { c with connectCalled := true, connecting := .preparing }

/-- `Connect` up to the call of `Open`. -/
def prepare (now : ℕ) : Prepared → WSConnection L P
  | .refused => { c with connectCalled := false, connecting := .idle }
  | .request secKey reqText timeOut =>
    { c with
      channelOpened := true
      connecting := .opening
      session :=
        { c.session with
          secKey := secKey
          reqText := reqText
          timeoutMs := if timeOut ≠ 0 then timeOut else c.session.config.connectTimeoutMs
          latestNetActionMs := now } }

/-- `Connect` behind the call of `Open`. -/
def openReturned (result : BCRESULT) : WSConnection L P :=
  if result ≠ bcrSuccess then
    { c with channelOpened := false, connectCalled := false, connecting := .idle }
  else { c with live := true, connecting := .checking }

/-- A call of another thread works on the session; its effects take place at once. -/
def meanwhile (f : Session L P → Session L P) : WSConnection L P :=
  { c with
    session := { f c.session with effects := [] }
    trace := c.trace ++ (f c.session).effects }

/-- The end of `Connect`. -/
def checkClosing (closing : Bool) : WSConnection L P :=
  let d := { c with connecting := .idle }
  if closing then d.meanwhile Session.closeChannel else d

/-- An event of the channel is handled; its effects are still to be carried out. -/
def handle (now : ℕ) (e : ChannelEvent) : WSConnection L P :=
  { c with
    session := { c.session.onEvent E now e with effects := [] }
    pending := (c.session.onEvent E now e).effects }

/-- An effect is carried out. -/
def perform : Effect → WSConnection L P
  | .deliver callback => if c.handler then { c with dispatch := .armed callback } else c
  | .release =>
    { c with session := { c.session with channel := false }, trace := c.trace ++ [.release] }
  | e => { c with trace := c.trace ++ [e] }

/-- `_CancelLocked`: whether the connection is to be removed at once. -/
def cancelLocked : Bool × WSConnection L P :=
  if ¬ c.channelOpened then (true, c) else (false, c.meanwhile Session.closeChannel)

/-- `ClearHandlerLocked`. -/
def clearHandlerLocked : WSConnection L P := { c with handler := false }

/-- What happens to a connection, if it can happen now. -/
def step : Input → WSConnection L P
  | .connect => c.connect
  | .prepare now prepared => if c.connecting = .preparing then c.prepare now prepared else c
  | .openReturned result => if c.connecting = .opening then c.openReturned result else c
  | .checkClosing closing => if c.connecting = .checking then c.checkClosing closing else c
  | .event now e =>
    if c.live ∧ c.session.channel ∧ c.pending = [] ∧ c.dispatch = .idle then c.handle E now e
    else c
  | .perform =>
    match c.dispatch, c.pending with
    | .idle, e :: rest => { c with pending := rest }.perform e
    | _, _ => c
  | .start =>
    match c.dispatch with
    | .armed callback =>
      { c with dispatch := .running, trace := c.trace ++ [.deliver callback] }
    | _ => c
  | .callbackReturned => if c.dispatch = .running then { c with dispatch := .idle } else c
  | .close result => c.meanwhile fun s => s.close result
  | .send opcode payload => c.meanwhile fun s => s.sendFrame opcode payload
  | .clearHandler => c.clearHandlerLocked

/-- The callbacks that have started, in order. -/
def callbacks : List Callback := c.trace.filterMap Effect.callback?

end WSConnection

end WS
