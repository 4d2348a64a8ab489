import TTSignal.Cert.Verify
import TTSignal.Tls.SSLayer
import Mathlib.Data.Int.Notation

/-!
# The state of a TCP channel

`TcpChannel` takes a TCP connection from name resolution over pinning to a network
interface and an optional TLS handshake to the ready state, and closes it when every
operation it has started is over. It runs on the thread of its event queue; other threads
post tasks. The model keeps its fields, the operations and tasks it waits for, and the
calls it is in the middle of. The counters are natural numbers.
-/

namespace Tcp

/-- A handler that is called back. -/
abbrev HandlerId := ℕ

/-- The result codes that appear here. -/
inductive BCResult where
  | success
  | inProgress
  | invalidArg
  | alreadyRunning
  | notConnected
  | noPhysicalInterface
  | routeMismatch
  | pinFailed
  | connectTimeout
  | dnsFailed
  | hostUnreach
  | tlsVerifyFailed
  | unexpectedEnd
  | failure
  | noMemory
  | other (code : ℤ)
  deriving DecidableEq

/-- An operation has been started. -/
def BCResult.Started (r : BCResult) : Prop := r = .success ∨ r = .inProgress

instance (r : BCResult) : Decidable r.Started := inferInstanceAs (Decidable (_ ∨ _))

/-- `TTVpnPolicy`. -/
inductive TTVpnPolicy where
  | unset
  | os
  | preferPhysical
  | forcePhysical
  deriving DecidableEq

/-- `TTPinResult`. -/
inductive TTPinResult where
  | ok
  | notNeeded
  | unsupported
  | failed
  deriving DecidableEq

/-- `TT_ROUTE_IFINDEX_UNKNOWN`. -/
def routeIfindexUnknown : UInt32 := 0

/-- `TT_ROUTE_IFINDEX_NO_ROUTE`. -/
def routeIfindexNoRoute : UInt32 := 0xFFFFFFFF

/-- `TT_PEER_CLASS_GLOBAL`. -/
def peerClassGlobal : UInt32 := 0

/-- `tt_vpn_pin_recheck`: whether the binding is kept. The reason is only logged. -/
def ttVpnPinRecheck (policy : TTVpnPolicy) (boundIfIndex scopedIfIndex globalIfIndex
    peerClass : UInt32) : Bool :=
  if boundIfIndex = 0 then true
  else if policy = .forcePhysical then true
  else if policy = .preferPhysical then
    if scopedIfIndex = routeIfindexNoRoute then false
    else if scopedIfIndex ≠ routeIfindexUnknown ∧ scopedIfIndex ≠ boundIfIndex then false
    else if peerClass ≠ peerClassGlobal ∧
        (globalIfIndex = routeIfindexUnknown ∨ globalIfIndex ≠ boundIfIndex) then false
    else true
  else if globalIfIndex ≠ routeIfindexUnknown ∧ globalIfIndex ≠ boundIfIndex then false
  else if globalIfIndex = routeIfindexUnknown ∧ peerClass ≠ peerClassGlobal then false
  else true

/-- `TcpChannel::State`. -/
inductive State where
  | idle
  | resolving
  | pinning
  | connecting
  | tlsHandshake
  | ready
  | closing
  | closed
  deriving DecidableEq

/-- `TcpChannel::IsLegalTransition`. -/
def isLegalTransition (cur next : State) : Bool :=
  match next with
  | .closing => cur ≠ .closing && cur ≠ .closed
  | .closed => cur = .closing
  | next =>
    match cur with
    | .idle => next = .resolving
    | .resolving => next = .pinning
    | .pinning => next = .connecting
    | .connecting => next = .tlsHandshake || next = .ready
    | .tlsHandshake => next = .ready
    | _ => false

/-- A resolved address. -/
structure SockAddr where
  /-- The family is `AF_INET6`. -/
  ipv6 : Bool
  /-- The address bytes. -/
  ip : List UInt8
  /-- The port. -/
  port : UInt16
  deriving DecidableEq

/-- `DnsConfig`, as far as the channel fills it in. -/
structure DnsConfig where
  /-- `policy`. -/
  policy : TTVpnPolicy
  /-- `ifIndex`. -/
  ifIndex : UInt32
  /-- `androidNetHandle`. -/
  androidNetHandle : UInt64
  deriving DecidableEq

/-- `DnsResult`. -/
structure DnsResult where
  /-- `result`. -/
  result : BCResult
  /-- `addrs`. -/
  addrs : List SockAddr
  /-- `errMessage`. -/
  errMessage : String
  deriving DecidableEq

/-- `TcpChannelConfig`. -/
structure TcpChannelConfig where
  /-- `host`. -/
  host : String
  /-- `port`. -/
  port : UInt16
  /-- `tls`. -/
  tls : Bool
  /-- `resolvedIp`. -/
  resolvedIp : String
  /-- `policy`. -/
  policy : TTVpnPolicy
  /-- `ifIndex`. -/
  ifIndex : UInt32
  /-- `androidNetHandle`. -/
  androidNetHandle : UInt64
  /-- `dns`. -/
  dns : DnsConfig
  /-- `tls_cfg`. -/
  tlsCfg : Cert.TlsConfig
  /-- `connectTimeoutMs`. -/
  connectTimeoutMs : UInt32

/-- Why a channel ends: the reasons handed to `_Fail`, with what their texts mention. -/
inductive Reason where
  | timedOut (ms : UInt32) (state : State)
  | resolveFailed (host errMessage : String)
  | noDnsExecutor
  | sslCtxFailed (err : String)
  | sslNewFailed
  | prepareSslFailed (err : String)
  | sslLayerFailed
  | socketFailed
  | peerNotGlobal (peerClass boundIfindex scopedIf : UInt32)
  | scopedNoRoute (boundIfindex : UInt32)
  | scopedMismatch (boundIfindex scopedIf : UInt32)
  | pinFailed (boundIfindex : UInt32) (result : TTPinResult) (errno : ℤ)
  | connectCallFailed
  | connectFailed
  | noPeerCertificate
  | spkiPinFailed (err : String)
  | tlsError
  | recvCallFailed
  | recvFailed
  | sendFailed
  | closedByCaller
  | adoptedTooLate
  | peerClosedEarly (state : State)
  | truncated
  | closedByPeer
  deriving DecidableEq

/-- The calls of `ITcpChannelHandler`. -/
inductive Callback where
  | onChannelReady
  | onChannelDetached
  | onChannelAdoptFailed
  | onChannelData (bytes : List UInt8)
  | onChannelClosed (result : BCResult) (reason : Option Reason)
  deriving DecidableEq

/-- The calls that other threads and handlers make and that post a task. A missing argument
is refused at once. -/
inductive Call where
  | send (buf : List (List UInt8))
  | close
  | adopt (handler : HandlerId)
  deriving DecidableEq

/-- The posted tasks. -/
inductive Task where
  | call (c : Call)
  | resolveDone (r : DnsResult)
  | noDnsExecutor
  deriving DecidableEq

/-- How far a worker of the `DnsExecutor` has come with a request. -/
inductive WorkerPhase where
  | queued
  | resolving
  | finished
  deriving DecidableEq

/-- `TcpDnsRequest`. -/
structure TcpDnsRequest where
  /-- `host`. -/
  host : String
  /-- `cfg`. -/
  cfg : DnsConfig
  /-- `abandoned`; the channel pointer is cleared with it. -/
  abandoned : Bool
  /-- What the worker does. -/
  worker : WorkerPhase

/-- What the channel's thread still has to do after the calls it is in. -/
inductive Instr where
  /-- `_MaybeFinishClose` at the end of a completion callback. -/
  | maybeFinishClose
  /-- The end of an `SslReentryGuard`. -/
  | leaveSsl
  /-- `_TcpRecv`. -/
  | tcpRecv
  /-- `SSLayer::ConnectSSL`. -/
  | connectSSL
  /-- Inside `SSL_connect`. -/
  | sslConnect
  /-- The read loop of `ReadFromSSL`, if the layer is ready. -/
  | readSSL
  /-- Inside `SSL_read`. -/
  | sslRead
  /-- Handing over plaintext blocks, and telling that the session is finished. -/
  | deliver (blocks : List (List UInt8)) (finished : Bool)
  /-- The loop of `WriteToSSL`. -/
  | writeSSL (blocks : List (List UInt8))
  /-- Inside `SSL_write`, with the blocks behind the current one. -/
  | sslWrite (blocks : List (List UInt8))
  /-- Inside a call of the handler. -/
  | inHandler
  /-- `_Fail` after `OnChannelAdoptFailed`. -/
  | adoptFailed
  /-- `OnChannelReady` after `OnChannelDetached`. -/
  | adoptReady
  deriving DecidableEq

/-- The counters that keep a channel from being finished. -/
structure Counters where
  /-- `ssl_depth_`. -/
  sslDepth : ℕ
  /-- `pending_dns_`. -/
  pendingDns : ℕ
  /-- `pending_connect_`. -/
  pendingConnect : ℕ
  /-- `pending_recv_`. -/
  pendingRecv : ℕ
  /-- `pending_send_`. -/
  pendingSend : ℕ
  /-- `pending_tasks_`. -/
  pendingTasks : ℕ
  deriving DecidableEq

/-- Nothing is pending. -/
def Counters.zero : Counters := ⟨0, 0, 0, 0, 0, 0⟩

/-- The socket operations in flight. -/
structure SocketOps where
  /-- Connects. -/
  connects : ℕ
  /-- Receives. -/
  recvs : ℕ
  /-- Sends. -/
  sends : ℕ
  deriving DecidableEq

/-- What a channel does, as far as the outside sees it, and what it is told. -/
inductive Action where
  /-- `_SetState`. -/
  | setState (cur next : State)
  /-- `Open` returns. -/
  | opened (result : BCResult)
  /-- A call returns. -/
  | returned (c : Call) (result : BCResult)
  /-- `tt_route_lookup_ifindex` within an interface. -/
  | scopedLookup (scope result : UInt32)
  /-- `tt_route_lookup_ifindex` without a scope. -/
  | globalLookup (result : UInt32)
  /-- `tt_socket_pin`. -/
  | pin (fd : ℤ) (ifIndex : UInt32) (androidNetHandle : UInt64) (result : TTPinResult)
  /-- `Connect` of the socket. -/
  | connect (fd : ℤ)
  /-- An operation of the socket is cancelled. -/
  | cancel (connect send recv : Bool)
  /-- `SSL_connect` returned 1. -/
  | handshake
  /-- `_VerifySpkiPin` checked the peer's leaf certificate against the pin. -/
  | verifySpkiPin (ok : Bool)
  /-- Application data is handed to `SSL_write`. -/
  | sslWrite (data : List UInt8)
  /-- `_Fail` sets `closing_`. -/
  | stopped (result : BCResult) (reason : Reason)
  /-- `closed_notified_` becomes true, with `closing_` and the counters at that time. -/
  | notified (closing : Bool) (counters : Counters)
  /-- A handler is called. -/
  | callback (handler : HandlerId) (c : Callback)
  deriving DecidableEq

/-- `SSLayer` inside a channel. Its session belongs to the outside. -/
structure SSLayer where
  /-- `ssl_state_ == SSL_STATE_RW`. -/
  isReady : Bool
  /-- `buffer_`. -/
  buffer : Option (List UInt8)
  /-- `data_`. -/
  data : List UInt8
  deriving DecidableEq

/-- `SSLayer::Create`. -/
def SSLayer.create : SSLayer := ⟨false, some [], []⟩

/-- A TCP channel. -/
structure TcpChannel where
  /-- `config_`. -/
  config : TcpChannelConfig
  /-- `handler_`. -/
  handler : Option HandlerId
  /-- `state_`. -/
  state : State
  /-- `queue_created_`. -/
  queueCreated : Bool
  /-- `detached_`. -/
  detached : Bool
  /-- `parked_`. -/
  parked : Bool
  /-- `poisoned_`. -/
  poisoned : Bool
  /-- `socket_`: its file descriptor. -/
  socket : Option ℤ
  /-- `peer_addr_`. -/
  peerAddr : Option SockAddr
  /-- `bound_ifindex_`. -/
  boundIfindex : UInt32
  /-- `pin_method_`. -/
  pinMethod : String
  /-- `ssl_ctx_` is not null. -/
  sslCtx : Bool
  /-- `ssl_` is not null. -/
  ssl : Bool
  /-- `ssl_layer_`. -/
  sslLayer : Option SSLayer
  /-- `connect_timer_` is scheduled. -/
  connectTimer : Bool
  /-- `dns_request_` is not null. -/
  dnsRequest : Bool
  /-- `tls_shutdown_clean_`. -/
  tlsShutdownClean : Bool
  /-- `ssl_depth_` and the `pending_` counters. -/
  counters : Counters
  /-- `closing_`. -/
  closing : Bool
  /-- `closed_notified_`. -/
  closedNotified : Bool
  /-- `close_result_`. -/
  closeResult : BCResult
  /-- `close_reason_`, empty at first. -/
  closeReason : Option Reason
  /-- The request the DNS worker shares with the channel. -/
  request : Option TcpDnsRequest
  /-- The socket operations that have been started and not completed. -/
  ops : SocketOps
  /-- Calls that have passed their first test. -/
  callers : List Call
  /-- Calls that have been counted and not posted. -/
  accepted : List Call
  /-- The posted tasks. -/
  tasks : List Task
  /-- The queue has been detached and its shutdown callback has not run. -/
  shutdownPending : Bool
  /-- What the channel's thread still has to do, innermost first. -/
  stack : List Instr
  /-- A null pointer has been followed. -/
  crashed : Bool
  /-- What happened so far. -/
  trace : List Action

/-- A constructed channel. -/
def TcpChannel.create (config : TcpChannelConfig) : TcpChannel where
  config := config
  handler := none
  state := .idle
  queueCreated := false
  detached := false
  parked := false
  poisoned := false
  socket := none
  peerAddr := none
  boundIfindex := 0
  pinMethod := ""
  sslCtx := false
  ssl := false
  sslLayer := none
  connectTimer := false
  dnsRequest := false
  tlsShutdownClean := false
  counters := Counters.zero
  closing := false
  closedNotified := false
  closeResult := .success
  closeReason := none
  request := none
  ops := ⟨0, 0, 0⟩
  callers := []
  accepted := []
  tasks := []
  shutdownPending := false
  stack := []
  crashed := false
  trace := []

/-- What the channel relies on, and how it was built. -/
structure Platform (X509 : Type*) where
  /-- `OS_ANDROID`. -/
  osAndroid : Bool
  /-- `TT_HAS_PATH_MONITOR`. -/
  hasPathMonitor : Bool
  /-- `tt_vpn_policy_platform_default`. -/
  platformDefault : TTVpnPolicy
  /-- `ParseIpLiteral`. -/
  parseIpLiteral : String → UInt16 → Option SockAddr
  /-- Reading certificates from a PEM text. -/
  pem : List UInt8 → Cert.PemRead X509
  /-- The X.509 library. -/
  x509 : Cert.X509Ops X509

/-- What the calls of `Open` to other components return. -/
structure OpenAnswers where
  /-- `tt_netmon_query_default_ifindex_ex`. -/
  detected : ℤ
  /-- `BCEventQueue::Create`. -/
  queueCreate : BCResult
  /-- `DnsExecutor::Instance` is not null. -/
  executor : Bool

/-- What the calls between resolution and connecting return. -/
structure PinningAnswers where
  /-- The error of `TlsContext::Create`, if it fails. -/
  sslCtx : Option String
  /-- `SSL_new` succeeds. -/
  sslNew : Bool
  /-- `TlsContext::PrepareSsl`, and its error. -/
  prepareSsl : BCResult × String
  /-- `SSLayer::Create`. -/
  sslLayer : BCResult
  /-- `BCSocket::Create`. -/
  socketCreate : BCResult
  /-- The file descriptor of the socket. -/
  fd : ℤ
  /-- The scoped route lookup. -/
  scopedIf : UInt32
  /-- The global route lookup. -/
  globalIf : UInt32
  /-- `tt_peer_address_class`. -/
  peerClass : UInt32
  /-- `tt_socket_pin`. -/
  pin : TTPinResult
  /-- The method `tt_socket_pin` used. -/
  pinMethod : String
  /-- The error number of `tt_socket_pin`. -/
  pinErrno : ℤ
  /-- `Connect` of the socket. -/
  connect : BCResult

end Tcp
