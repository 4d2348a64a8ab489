import TTSignal.Tcp.Channel
import Mathlib.Data.List.Basic

/-!
# The steps of a TCP channel

The functions of `TcpChannel`, with what they ask other components as arguments. A step is
a call of another thread up to its next access to the counters, or a piece of work of the
channel's own thread between two calls into the TLS library or a handler. Calls that wait
for the end of another one stand on the stack of the channel.
-/

namespace Tcp

/-- `BC_SOCKET_MAXSCATTERGATHER`. -/
def maxScatterGather : ℕ := 1024

/-- How a send operation completes. -/
inductive SendResult where
  | success
  | canceled
  | failed (result : BCResult)
  deriving DecidableEq

/-- How a receive operation completes. -/
inductive RecvResult where
  | success (bytes : List UInt8)
  | eof
  | canceled
  | failed (result : BCResult)
  deriving DecidableEq

/-- What lets the channel's thread go on, with what other components return. -/
inductive Answer (X509 : Type*) where
  /-- Nothing is asked. -/
  | go
  /-- `Recv2` of the socket. -/
  | recv (result : BCResult)
  /-- The TLS library writes to the socket; the results of the send calls. -/
  | writes (data : List UInt8) (sends : ℕ → BCResult)
  /-- The TLS library reads ciphertext. -/
  | reads (size : ℕ)
  /-- `SSL_connect` returns, with the peer's certificate and whether the result of its
  verification is bad. -/
  | connected (result : Tls.HandshakeResult) (leaf : Option X509) (badVerify : Bool)
  /-- `SSL_read` returns. -/
  | read (result : Tls.ReadResult) (badVerify : Bool)
  /-- `SSL_write` returns. -/
  | written
  /-- The handler returns. -/
  | returned

/-- What happens to a channel. -/
inductive Event (X509 : Type*) where
  /-- `Open`. -/
  | openChannel (handler : Option HandlerId) (cfg : TcpChannelConfig) (answers : OpenAnswers)
  /-- A call makes its first test. -/
  | call (c : Call)
  /-- A call counts itself with `_AcquirePendingTask`. -/
  | acquire (i : ℕ)
  /-- A counted call posts its task. -/
  | post (i : ℕ)
  /-- `Park`. -/
  | park (watcher : Option HandlerId)
  /-- The DNS worker takes the request. -/
  | dnsStart
  /-- The DNS worker has its result. -/
  | dnsDone (r : DnsResult)
  /-- The next posted task runs. -/
  | runTask (answers : PinningAnswers) (sends : ℕ → BCResult)
  /-- `_ConnectDoneCallback`, with the result of the next receive call. -/
  | connectDone (result rearm : BCResult)
  /-- `_RecvDoneCallback`. -/
  | recvDone (result : RecvResult)
  /-- `_SendDoneCallback`. -/
  | sendDone (result : SendResult)
  /-- The connect timer runs out. -/
  | timeout
  /-- The shutdown callback of the queue. -/
  | shutdown
  /-- The channel's thread goes on. -/
  | resume (answer : Answer X509)

namespace TcpChannel

variable {X509 : Type*} (p : Platform X509) (s : TcpChannel)

/-- Record what happens. -/
def note (a : Action) : TcpChannel := { s with trace := s.trace ++ [a] }

/-- Something has to be done before what is on the stack. -/
def push (instrs : List Instr) : TcpChannel := { s with stack := instrs ++ s.stack }

/-- A null pointer is followed. -/
def crash : TcpChannel := { s with crashed := true }

/-- A handler is called. -/
def callHandler (h : HandlerId) (c : Callback) : TcpChannel :=
  (s.note (.callback h c)).push [.inHandler]

/-- `_SetState`: an illegal transition is logged and made all the same. -/
def setState (next : State) : TcpChannel :=
  if s.state = next then s
  else { s.note (.setState s.state next) with state := next }

/-- `_ReleasePendingTask`. -/
def releasePendingTask : TcpChannel :=
  { s with counters.pendingTasks := s.counters.pendingTasks - 1 }

/-- `_AcquirePendingTask` and `PostTask` of the channel itself. -/
def postCounted (t : Task) : TcpChannel :=
  { s with
    counters.pendingTasks :=
      if s.closedNotified then s.counters.pendingTasks else s.counters.pendingTasks + 1
    tasks := s.tasks ++ [t] }

/-- `_Cleanup`. -/
def cleanup : TcpChannel :=
  { s with socket := none, sslLayer := none, ssl := false, sslCtx := false }

/-- `Detach` of the event queue: the timers are cancelled and the shutdown callback posted. -/
def detach : TcpChannel :=
  { s with detached := true, connectTimer := false, shutdownPending := true }

/-- The tests of `_MaybeFinishClose`. -/
def MayFinish : Prop :=
  s.closing = true ∧ s.closedNotified = false ∧ s.counters = Counters.zero

instance : Decidable s.MayFinish := inferInstanceAs (Decidable (_ ∧ _))

/-- `_MaybeFinishClose`. -/
def maybeFinishClose : TcpChannel :=
  if s.MayFinish then
    (({ s.note (.notified s.closing s.counters) with closedNotified := true }).setState
      .closed).cleanup.detach
  else s

/-- `_AbandonDns`. -/
def abandonDns : TcpChannel :=
  if s.dnsRequest then
    { s with
      request := s.request.map fun r => { r with abandoned := true }
      dnsRequest := false
      counters.pendingDns := 0 }
  else s

/-- The connect timer is unscheduled. -/
def unscheduleTimer : TcpChannel := { s with connectTimer := false }

/-- The operations of the socket are cancelled; they still complete. -/
def cancelOps : TcpChannel :=
  if s.socket.isSome then
    s.note (.cancel (decide (0 < s.counters.pendingConnect))
      (decide (0 < s.counters.pendingSend)) (decide (0 < s.counters.pendingRecv)))
  else s

/-- `_CancelIo`. -/
def cancelIo : TcpChannel := s.unscheduleTimer.abandonDns.cancelOps

/-- The start of closing in `_Fail`. -/
def startClosing (result : BCResult) (reason : Reason) : TcpChannel :=
  (({ s.note (.stopped result reason) with
    closing := true
    closeResult := result
    closeReason := some reason }).setState .closing).cancelIo

/-- `_Fail`. -/
def fail (result : BCResult) (reason : Reason) : TcpChannel :=
  if s.closing then s.maybeFinishClose else (s.startClosing result reason).maybeFinishClose

/-- `_HasBindTarget`. -/
def HasBindTarget : Prop :=
  s.boundIfindex ≠ 0 ∨ p.osAndroid = true ∧ s.config.androidNetHandle ≠ 0

instance : Decidable (s.HasBindTarget p) := inferInstanceAs (Decidable (_ ∨ _))

/-- `_PickPhysicalIfIndex`. -/
def pickPhysicalIfIndex (detected : ℤ) : UInt32 :=
  if s.config.ifIndex ≠ 0 then s.config.ifIndex
  else if p.hasPathMonitor ∧ 0 < detected then UInt32.ofNat detected.toNat
  else 0

/-- The address given in the configuration. -/
def literal : Option SockAddr :=
  if s.config.resolvedIp = "" then none
  else p.parseIpLiteral s.config.resolvedIp s.config.port

/-- The part of the DNS configuration that `Open` fills in. -/
def dnsConfig : DnsConfig where
  policy := if s.config.dns.policy = .unset then s.config.policy else s.config.dns.policy
  ifIndex := if s.config.dns.ifIndex = 0 then s.boundIfindex else s.config.dns.ifIndex
  androidNetHandle :=
    if s.config.dns.androidNetHandle = 0 then s.config.androidNetHandle
    else s.config.dns.androidNetHandle

/-- The DNS request of `Open` is made and given to the executor. -/
def requestDns : TcpChannel :=
  { s with
    dnsRequest := true
    request := some ⟨s.config.host, s.dnsConfig, false, .queued⟩
    counters.pendingDns := s.counters.pendingDns + 1 }

/-- Resolution is started: a literal address needs none. -/
def resolve (a : OpenAnswers) : TcpChannel :=
  match s.literal p with
  | some addr => s.postCounted (.resolveDone ⟨.success, [addr], ""⟩)
  | none => if a.executor then s.requestDns else s.postCounted .noDnsExecutor

/-- The end of `Open`, with an event queue. -/
def startResolving (h : HandlerId) (a : OpenAnswers) : TcpChannel :=
  resolve p (setState
    { s with queueCreated := true, handler := some h, connectTimer := true } .resolving) a

/-- `Open` after the interface has been chosen. -/
def openBound (h : HandlerId) (a : OpenAnswers) : TcpChannel :=
  if s.config.policy = .forcePhysical ∧ ¬ s.HasBindTarget p then
    s.note (.opened .noPhysicalInterface)
  else if a.queueCreate ≠ .success then s.note (.opened a.queueCreate)
  else (s.startResolving p h a).note (.opened .success)

/-- `Open` with its configuration stored. -/
def openConfigured (h : HandlerId) (a : OpenAnswers) : TcpChannel :=
  if s.config.resolvedIp ≠ "" ∧ s.literal p = none then s.note (.opened .invalidArg)
  else if s.config.policy = .os then s.openBound p h a
  else openBound p { s with boundIfindex := s.pickPhysicalIfIndex p a.detected } h a

/-- The configuration as `Open` stores it. -/
def storedConfig (cfg : TcpChannelConfig) : TcpChannelConfig :=
  if cfg.policy = .unset then { cfg with policy := p.platformDefault } else cfg

/-- `TcpChannel::Open`. -/
def openChannel (handler : Option HandlerId) (cfg : TcpChannelConfig) (a : OpenAnswers) :
    TcpChannel :=
  match handler with
  | none => s.note (.opened .invalidArg)
  | some h =>
    if s.state ≠ .idle then s.note (.opened .alreadyRunning)
    else if cfg.host = "" ∨ cfg.port = 0 then s.note (.opened .invalidArg)
    else openConfigured p { s with config := storedConfig p cfg } h a

/-- `_SetupTls`. -/
def setupTls (a : PinningAnswers) : TcpChannel × BCResult :=
  match a.sslCtx with
  | some err => (s.fail .failure (.sslCtxFailed err), .failure)
  | none =>
    if a.sslNew = false then
      (fail { s with sslCtx := true } .noMemory .sslNewFailed, .noMemory)
    else if a.prepareSsl.1 ≠ .success then
      (fail { s with sslCtx := true, ssl := true } a.prepareSsl.1
        (.prepareSslFailed a.prepareSsl.2), a.prepareSsl.1)
    else if a.sslLayer ≠ .success then
      (fail { s with sslCtx := true, ssl := true, sslLayer := none } a.sslLayer .sslLayerFailed,
        a.sslLayer)
    else ({ s with sslCtx := true, ssl := true, sslLayer := some SSLayer.create }, .success)

/-- The lookups of `_DecidePinBeforeConnect`. -/
def lookup (a : PinningAnswers) : TcpChannel :=
  (s.note (.scopedLookup s.boundIfindex a.scopedIf)).note (.globalLookup a.globalIf)

/-- The reason of a refused route. -/
def routeReason (a : PinningAnswers) : Reason :=
  if a.peerClass ≠ peerClassGlobal then .peerNotGlobal a.peerClass s.boundIfindex a.scopedIf
  else if a.scopedIf = routeIfindexNoRoute then .scopedNoRoute s.boundIfindex
  else .scopedMismatch s.boundIfindex a.scopedIf

/-- The binding is given up because of the routes. -/
def unpin : TcpChannel :=
  { s with
    boundIfindex := 0
    config.androidNetHandle := if p.osAndroid then 0 else s.config.androidNetHandle
    pinMethod := "" }

/-- `_DecidePinBeforeConnect`. -/
def decidePinBeforeConnect (a : PinningAnswers) : TcpChannel × BCResult :=
  if ¬ s.HasBindTarget p then (s, .success)
  else if s.config.policy = .forcePhysical then
    if a.scopedIf = routeIfindexUnknown ∨ a.scopedIf = s.boundIfindex then
      (s.lookup a, .success)
    else ((s.lookup a).fail .routeMismatch (s.routeReason a), .routeMismatch)
  else if ttVpnPinRecheck s.config.policy s.boundIfindex a.scopedIf a.globalIf a.peerClass then
    (s.lookup a, .success)
  else ((s.lookup a).unpin p, .success)

/-- The call of `tt_socket_pin`. -/
def callPin (a : PinningAnswers) : TcpChannel :=
  s.note (.pin a.fd s.boundIfindex s.config.androidNetHandle a.pin)

/-- `_PinSocket`. -/
def pinSocket (a : PinningAnswers) : TcpChannel × BCResult :=
  if ¬ s.HasBindTarget p then (s, .success)
  else if a.pin = .ok then ({ s.callPin a with pinMethod := a.pinMethod }, .success)
  else if s.config.policy = .forcePhysical then
    ((s.callPin a).fail .pinFailed (.pinFailed s.boundIfindex a.pin a.pinErrno), .pinFailed)
  else ({ s.callPin a with boundIfindex := 0, pinMethod := "" }, .success)

/-- The result of `Connect`. -/
def onConnectCalled (result : BCResult) : TcpChannel :=
  if result.Started then
    { s with
      counters.pendingConnect := s.counters.pendingConnect + 1
      ops.connects := s.ops.connects + 1 }
  else s.fail result .connectCallFailed

/-- The end of `_EnterPinning`. -/
def connectSocket (a : PinningAnswers) : TcpChannel :=
  ((s.setState .connecting).note (.connect a.fd)).onConnectCalled a.connect

/-- A function that is called if the one before it succeeded. -/
def andThen (r : TcpChannel × BCResult) (f : TcpChannel → TcpChannel) : TcpChannel :=
  if r.2 ≠ .success then r.1 else f r.1

/-- The part of `_EnterPinning` that makes the socket. -/
def openSocket (a : PinningAnswers) : TcpChannel :=
  if a.socketCreate ≠ .success then fail { s with socket := none } a.socketCreate .socketFailed
  else
    andThen (decidePinBeforeConnect p { s with socket := some a.fd } a) fun s =>
      andThen (s.pinSocket p a) fun s => s.connectSocket a

/-- `_EnterPinning` in its new state. -/
def pinning (a : PinningAnswers) : TcpChannel :=
  if s.config.tls then andThen (s.setupTls a) fun s => s.openSocket p a else s.openSocket p a

/-- `_EnterPinning`. -/
def enterPinning (a : PinningAnswers) : TcpChannel := (s.setState .pinning).pinning p a

/-- The DNS request is over. -/
def dnsOver : TcpChannel :=
  { s with counters.pendingDns := s.counters.pendingDns - 1, dnsRequest := false }

/-- A result of the DNS request that somebody waits for. -/
def onResolved (r : DnsResult) (a : PinningAnswers) : TcpChannel :=
  match r.addrs with
  | [] =>
    s.fail (if r.result ≠ .success then r.result else .hostUnreach)
      (.resolveFailed s.config.host r.errMessage)
  | addr :: _ =>
    if r.result ≠ .success then s.fail r.result (.resolveFailed s.config.host r.errMessage)
    else enterPinning p { s with peerAddr := some { addr with port := s.config.port } } a

/-- `_OnResolveDone`. -/
def onResolveDone (r : DnsResult) (a : PinningAnswers) : TcpChannel :=
  if s.dnsOver.closing ∨ s.dnsOver.state ≠ .resolving then s.dnsOver.maybeFinishClose
  else s.dnsOver.onResolved p r a

/-- The send calls of `_SendRaw`; the data left at the end is sent if there is any. -/
def sendSlices (sends : ℕ → BCResult) : ℕ → List (List (List UInt8)) → TcpChannel → TcpChannel
  | _, [], s => s
  | k, slice :: rest, s =>
    if rest = [] ∧ slice.flatten = [] then s
    else if (sends k).Started then
      sendSlices sends (k + 1) rest
        { s with
          counters.pendingSend := s.counters.pendingSend + 1
          ops.sends := s.ops.sends + 1 }
    else s.fail (sends k) .sendFailed

/-- `_SendRaw`. -/
def sendRaw (sends : ℕ → BCResult) (buf : List (List UInt8)) : TcpChannel :=
  if s.closing ∨ s.socket = none then s
  else sendSlices sends 0 (buf.toChunks maxScatterGather) s

/-- `_TcpRecv`. -/
def tcpRecv (result : BCResult) : TcpChannel :=
  if s.closing ∨ s.socket = none ∨ 0 < s.counters.pendingRecv then s
  else if result.Started then
    { s with counters.pendingRecv := s.counters.pendingRecv + 1, ops.recvs := s.ops.recvs + 1 }
  else s.fail result .recvCallFailed

/-- An `SslReentryGuard` is made around calls of the TLS layer. -/
def enterSsl (instrs : List Instr) : TcpChannel :=
  push { s with counters.sslDepth := s.counters.sslDepth + 1 } (instrs ++ [.leaveSsl])

/-- One call of the TLS layer is left. -/
def sslLeft : TcpChannel := { s with counters.sslDepth := s.counters.sslDepth - 1 }

/-- The end of an `SslReentryGuard`. -/
def leaveSsl : TcpChannel :=
  if s.sslLeft.counters.sslDepth = 0 then s.sslLeft.maybeFinishClose else s.sslLeft

/-- `OnSSLWrite`. -/
def onSSLWrite (sends : ℕ → BCResult) (data : List UInt8) : TcpChannel :=
  if data = [] then s
  else if s.closing ∨ s.socket = none then s
  else s.sendRaw sends (Tls.readBlocks data.length data)

/-- `OnRecvDataFromSSL`. -/
def onRecvDataFromSSL (bytes : List UInt8) : TcpChannel :=
  if bytes = [] then s
  else if s.parked then { s with poisoned := true }
  else
    match s.handler with
    | none => s
    | some h => if s.state ≠ .ready then s else s.callHandler h (.onChannelData bytes)

/-- `_VerifySpkiPin`, with the peer's certificate. -/
def verifySpkiPin (leaf : Option X509) : TcpChannel × BCResult :=
  if s.config.tlsCfg.spkiPin = [] then (s, .success)
  else
    match leaf with
    | none =>
      ((s.note (.verifySpkiPin false)).fail .tlsVerifyFailed .noPeerCertificate,
        .tlsVerifyFailed)
    | some cert =>
      match Cert.verifyChain p.pem p.x509 [cert] s.config.host s.config.tlsCfg with
      | .error err =>
        ((s.note (.verifySpkiPin false)).fail .tlsVerifyFailed (.spkiPinFailed err),
          .tlsVerifyFailed)
      | .ok () => (s.note (.verifySpkiPin true), .success)

/-- The handler is told that the channel is ready, if there is one. -/
def tellReady : TcpChannel :=
  match s.handler with
  | none => s
  | some h => s.callHandler h .onChannelReady

/-- `_EnterReady`. -/
def enterReady : TcpChannel := (s.setState .ready).unscheduleTimer.tellReady

/-- `OnSSLReady`. -/
def onSSLReady (leaf : Option X509) : TcpChannel :=
  if s.closing ∨ s.state ≠ .tlsHandshake then s
  else andThen (s.verifySpkiPin p leaf) enterReady

/-- `OnSSLError`. -/
def onSSLError (badVerify : Bool) : TcpChannel :=
  s.fail (if s.ssl ∧ badVerify then .tlsVerifyFailed else .failure) .tlsError

/-- `_OnPeerClosed`. -/
def onPeerClosed : TcpChannel :=
  if s.state ≠ .ready then s.fail .unexpectedEnd (.peerClosedEarly s.state)
  else if s.config.tls ∧ s.tlsShutdownClean = false then s.fail .unexpectedEnd .truncated
  else s.fail .success .closedByPeer

/-- `OnSSLFinished`. -/
def onSSLFinished : TcpChannel := onPeerClosed { s with tlsShutdownClean := true }

/-- `ConnectSSL` is called through `ssl_layer_`, whether it is null or not. -/
def startHandshake : TcpChannel :=
  if s.sslLayer.isSome then s.enterSsl [.connectSSL] else s.crash

/-- `_OnConnectDone`. -/
def onConnectDone (result rearm : BCResult) : TcpChannel :=
  if result ≠ .success then s.fail result .connectFailed
  else if s.closing ∨ s.state ≠ .connecting then s
  else if s.sslLayer.isSome then ((s.setState .tlsHandshake).tcpRecv rearm).startHandshake
  else (s.push [.tcpRecv]).enterReady

/-- `_OnRecvDone`. -/
def onRecvDone (bytes : List UInt8) : TcpChannel :=
  match s.sslLayer with
  | some l =>
    enterSsl { s with sslLayer := some { l with buffer := some (l.buffer.getD [] ++ bytes) } }
      [.connectSSL, .readSSL]
  | none => s.onRecvDataFromSSL bytes

/-- `_OnSendDone`. -/
def onSendDone : TcpChannel :=
  if s.sslLayer.isSome ∧ s.state = .tlsHandshake then s.enterSsl [.connectSSL] else s

/-- A connect operation is over. -/
def connectOver : TcpChannel :=
  push { s with
    counters.pendingConnect := s.counters.pendingConnect - 1
    ops.connects := s.ops.connects - 1 } [.maybeFinishClose]

/-- `_ConnectDoneCallback`. -/
def connectDoneCallback (result rearm : BCResult) : TcpChannel :=
  s.connectOver.onConnectDone result rearm

/-- A receive operation is over. -/
def recvOver : TcpChannel :=
  push { s with
    counters.pendingRecv := s.counters.pendingRecv - 1
    ops.recvs := s.ops.recvs - 1 } [.maybeFinishClose]

/-- `_RecvDoneCallback`. -/
def recvDoneCallback (result : RecvResult) : TcpChannel :=
  match result with
  | .success bytes =>
    if bytes = [] then s.recvOver.onPeerClosed else (s.recvOver.push [.tcpRecv]).onRecvDone bytes
  | .eof => s.recvOver.onPeerClosed
  | .canceled => s.recvOver
  | .failed result => s.recvOver.fail result .recvFailed

/-- A send operation is over. -/
def sendOver : TcpChannel :=
  push { s with
    counters.pendingSend := s.counters.pendingSend - 1
    ops.sends := s.ops.sends - 1 } [.maybeFinishClose]

/-- `_SendDoneCallback`. -/
def sendDoneCallback (result : SendResult) : TcpChannel :=
  match result with
  | .success => s.sendOver.onSendDone
  | .canceled => s.sendOver
  | .failed result => s.sendOver.fail result .sendFailed

/-- `IsParkedAndUsable`. -/
def IsParkedAndUsable : Prop :=
  s.parked = true ∧ s.poisoned = false ∧ s.state = .ready

instance : Decidable s.IsParkedAndUsable := inferInstanceAs (Decidable (_ ∧ _))

/-- The task of `Send`. -/
def sendTask (sends : ℕ → BCResult) (buf : List (List UInt8)) : TcpChannel :=
  if s.state ≠ .ready then s.maybeFinishClose
  else if s.sslLayer.isSome then s.enterSsl [.writeSSL buf]
  else s.sendRaw sends buf

/-- The task of `Adopt`. -/
def adoptTask (h : HandlerId) : TcpChannel :=
  if ¬ s.IsParkedAndUsable then (s.push [.adoptFailed]).callHandler h .onChannelAdoptFailed
  else
    match s.handler with
    | none => callHandler { s with parked := false, handler := some h } h .onChannelReady
    | some watcher =>
      callHandler (push { s with parked := false, handler := some h } [.adoptReady]) watcher
        .onChannelDetached

/-- A task runs. -/
def perform (a : PinningAnswers) (sends : ℕ → BCResult) : Task → TcpChannel
  | .call (.send buf) => s.releasePendingTask.sendTask sends buf
  | .call .close => s.releasePendingTask.fail .success .closedByCaller
  | .call (.adopt h) => s.releasePendingTask.adoptTask h
  | .resolveDone r => s.releasePendingTask.onResolveDone p r a
  | .noDnsExecutor => s.releasePendingTask.fail .dnsFailed .noDnsExecutor

/-- The next posted task runs. -/
def runTask (a : PinningAnswers) (sends : ℕ → BCResult) : TcpChannel :=
  match s.tasks with
  | [] => s
  | t :: tasks => perform p { s with tasks := tasks } a sends t

/-- The first test of a call. -/
def Admits : Call → Prop
  | .send _ => s.state = .ready
  | .close => s.queueCreated = true
  | .adopt _ => s.IsParkedAndUsable

instance : ∀ c : Call, Decidable (s.Admits c)
  | .send _ => inferInstanceAs (Decidable (_ = _))
  | .close => inferInstanceAs (Decidable (_ = _))
  | .adopt _ => inferInstanceAs (Decidable (IsParkedAndUsable _))

/-- What a refused call returns; `Close` returns nothing. -/
def refusal : Call → BCResult
  | .send _ => .notConnected
  | .close => .success
  | .adopt _ => .notConnected

/-- A call makes its first test. -/
def call (c : Call) : TcpChannel :=
  if s.Admits c then { s with callers := s.callers ++ [c] } else s.note (.returned c (refusal c))

/-- `_AcquirePendingTask` of a call. -/
def acquire (i : ℕ) : TcpChannel :=
  match s.callers[i]? with
  | none => s
  | some c =>
    if s.closedNotified then
      note { s with callers := s.callers.eraseIdx i } (.returned c (refusal c))
    else
      { s with
        callers := s.callers.eraseIdx i
        accepted := s.accepted ++ [c]
        counters.pendingTasks := s.counters.pendingTasks + 1 }

/-- A counted call posts its task and returns. -/
def post (i : ℕ) : TcpChannel :=
  match s.accepted[i]? with
  | none => s
  | some c =>
    note { s with accepted := s.accepted.eraseIdx i, tasks := s.tasks ++ [.call c] }
      (.returned c .success)

/-- `Park`. -/
def park (watcher : Option HandlerId) : TcpChannel :=
  if s.state ≠ .ready then s else { s with handler := watcher, parked := true }

/-- The start of `_RunDnsRequest`. -/
def dnsStart : TcpChannel :=
  match s.request with
  | some ⟨host, cfg, abandoned, .queued⟩ =>
    { s with
      request := some ⟨host, cfg, abandoned, if abandoned then .finished else .resolving⟩ }
  | _ => s

/-- The end of `_RunDnsRequest`. -/
def dnsDone (r : DnsResult) : TcpChannel :=
  match s.request with
  | some ⟨host, cfg, abandoned, .resolving⟩ =>
    if abandoned ∨ s.closedNotified then
      { s with request := some ⟨host, cfg, abandoned, .finished⟩ }
    else
      postCounted { s with request := some ⟨host, cfg, abandoned, .finished⟩ } (.resolveDone r)
  | _ => s

/-- The connect timer runs out. -/
def timeout : TcpChannel :=
  if s.connectTimer then
    s.unscheduleTimer.fail .connectTimeout (.timedOut s.config.connectTimeoutMs s.state)
  else s

/-- The handler is told that the channel is closed, if there is one. -/
def tellClosed : TcpChannel :=
  match s.handler with
  | none => s
  | some h =>
    callHandler { s with handler := none } h (.onChannelClosed s.closeResult s.closeReason)

/-- The shutdown callback of the queue. -/
def onEventProcShutdown : TcpChannel :=
  if s.closedNotified then tellClosed { s with shutdownPending := false }
  else { s with shutdownPending := false }

/-- The TLS library reads ciphertext from the buffer of the layer. -/
def sockRead (size : ℕ) : TcpChannel :=
  { s with
    sslLayer := s.sslLayer.map fun l => { l with buffer := (Tls.bufferRead l.buffer size).2 } }

/-- `ConnectSSL`. -/
def connectSSL : TcpChannel :=
  match s.sslLayer with
  | none => s.crash
  | some l => if l.isReady ∨ l.buffer = none then s else s.push [.sslConnect]

/-- `SSL_connect` returns. -/
def onSslConnect (result : Tls.HandshakeResult) (leaf : Option X509) (badVerify : Bool) :
    TcpChannel :=
  match result with
  | .done =>
    onSSLReady p
      { s.note .handshake with sslLayer := s.sslLayer.map fun l => { l with isReady := true } }
      leaf
  | .shutdown => s
  | .failed reported => if reported then s.onSSLError badVerify else s

/-- The collected plaintext, in blocks. -/
def collected : List (List UInt8) :=
  (s.sslLayer.map fun l => Tls.readBlocks l.data.length l.data).getD []

/-- The collected plaintext is going to be handed over. -/
def startDeliver (finished : Bool) : TcpChannel :=
  push { s with sslLayer := s.sslLayer.map fun l => { l with data := [] } }
    [.deliver s.collected finished]

/-- The read loop of `ReadFromSSL` comes to its test. -/
def readSSL : TcpChannel :=
  match s.sslLayer with
  | none => s.crash
  | some l =>
    if l.isReady = false then s
    else if l.buffer.getD [] = [] then s.startDeliver false
    else s.push [.sslRead]

/-- `SSL_read` returns. -/
def onSslRead (result : Tls.ReadResult) (badVerify : Bool) : TcpChannel :=
  match result with
  | .received bytes =>
    push { s with sslLayer := s.sslLayer.map fun l => { l with data := l.data ++ bytes } }
      [.readSSL]
  | .failed reported =>
    if reported then (s.push [.readSSL]).onSSLError badVerify else s.push [.readSSL]
  | .closed => s.startDeliver true

/-- The next block of plaintext is handed over, or the end of the session is told. -/
def deliver (blocks : List (List UInt8)) (finished : Bool) : TcpChannel :=
  match blocks with
  | block :: blocks => (s.push [.deliver blocks finished]).onRecvDataFromSSL block
  | [] => if finished then s.onSSLFinished else s

/-- The next block of application data is written. -/
def writeSSL (blocks : List (List UInt8)) : TcpChannel :=
  match blocks with
  | block :: blocks => (s.note (.sslWrite block)).push [.sslWrite blocks]
  | [] => s

/-- `OnChannelReady` at the end of the task of `Adopt`. -/
def adoptReady : TcpChannel :=
  match s.handler with
  | none => s.crash
  | some h => s.callHandler h .onChannelReady

/-- The next thing on the stack is done, if the answer is one to it. -/
def continueWith (answer : Answer X509) : Instr → Option TcpChannel
  | .maybeFinishClose =>
    match answer with
    | .go => some s.maybeFinishClose
    | _ => none
  | .leaveSsl =>
    match answer with
    | .go => some s.leaveSsl
    | _ => none
  | .tcpRecv =>
    match answer with
    | .recv result => some (s.tcpRecv result)
    | _ => none
  | .connectSSL =>
    match answer with
    | .go => some s.connectSSL
    | _ => none
  | .sslConnect =>
    match answer with
    | .writes data sends => some ((s.push [.sslConnect]).onSSLWrite sends data)
    | .reads size => some ((s.push [.sslConnect]).sockRead size)
    | .connected result leaf badVerify => some (s.onSslConnect p result leaf badVerify)
    | _ => none
  | .readSSL =>
    match answer with
    | .go => some s.readSSL
    | _ => none
  | .sslRead =>
    match answer with
    | .writes data sends => some ((s.push [.sslRead]).onSSLWrite sends data)
    | .reads size => some ((s.push [.sslRead]).sockRead size)
    | .read result badVerify => some (s.onSslRead result badVerify)
    | _ => none
  | .deliver blocks finished =>
    match answer with
    | .go => some (s.deliver blocks finished)
    | _ => none
  | .writeSSL blocks =>
    match answer with
    | .go => some (s.writeSSL blocks)
    | _ => none
  | .sslWrite blocks =>
    match answer with
    | .writes data sends => some ((s.push [.sslWrite blocks]).onSSLWrite sends data)
    | .reads size => some ((s.push [.sslWrite blocks]).sockRead size)
    | .written => some (s.push [.writeSSL blocks])
    | _ => none
  | .inHandler =>
    match answer with
    | .returned => some s
    | _ => none
  | .adoptFailed =>
    match answer with
    | .go => some (s.fail .success .adoptedTooLate)
    | _ => none
  | .adoptReady =>
    match answer with
    | .go => some s.adoptReady
    | _ => none

/-- The channel's thread goes on. -/
def resume (answer : Answer X509) : TcpChannel :=
  match s.stack with
  | [] => s
  | instr :: stack => (continueWith p { s with stack := stack } answer instr).getD s

/-- A callback of the channel's thread, which runs one at a time. -/
def dispatched (f : TcpChannel → TcpChannel) : TcpChannel := if s.stack = [] then f s else s

/-- A step of a channel. Operations complete only once, and nothing happens behind a null
pointer. -/
def step (s : TcpChannel) (e : Event X509) : TcpChannel :=
  if s.crashed then s
  else
    match e with
    | .openChannel handler cfg a => s.openChannel p handler cfg a
    | .call c => s.call c
    | .acquire i => s.acquire i
    | .post i => s.post i
    | .park watcher => s.park watcher
    | .dnsStart => s.dnsStart
    | .dnsDone r => s.dnsDone r
    | .runTask a sends => s.dispatched fun s => s.runTask p a sends
    | .connectDone result rearm =>
      s.dispatched fun s =>
        if 0 < s.ops.connects then s.connectDoneCallback result rearm else s
    | .recvDone result =>
      s.dispatched fun s => if 0 < s.ops.recvs then s.recvDoneCallback result else s
    | .sendDone result =>
      s.dispatched fun s => if 0 < s.ops.sends then s.sendDoneCallback result else s
    | .timeout => s.dispatched timeout
    | .shutdown => s.dispatched fun s => if s.shutdownPending then s.onEventProcShutdown else s
    | .resume answer => s.resume p answer

end TcpChannel

end Tcp
