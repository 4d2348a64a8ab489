import TTSignal.BC.EventQueue
import Mathlib.Data.List.Basic

/-!
# The client connection

`SMPConnection` is driven from one event queue: the calls of the application post tasks,
timers and received packets call into the QUIC engine, and the engine calls back. The
model keeps the fields that decide how a connection comes up and how it is torn down,
the tasks and timers of its event queue, and a record of what it was told and what it
asked for.
-/

namespace Conn

open BC

/-- The results that connections report. -/
inductive BCRESULT where
  | success
  | timedOut
  | netDown
  | failure
  | alreadyRunning
  | invalidArg
  | noPhysicalInterface
  | unexpectedEnd
  | other (code : Int)
  deriving DecidableEq, Repr

/-- The states of a connection (`ConnState`). -/
inductive ConnState where
  | freed
  | closingSock
  | closingQuic
  | init
  | handshake
  | connecting
  | connected
  | max
  deriving DecidableEq, Repr

/-- The number of a state. -/
def ConnState.val : ConnState → Nat
  | .freed => 0
  | .closingSock => 1
  | .closingQuic => 2
  | .init => 3
  | .handshake => 4
  | .connecting => 5
  | .connected => 6
  | .max => 9

/-- What a connection has to do with a MASQUE proxy. -/
inductive MasqueRole where
  | none
  | inner
  | tunnel
  deriving DecidableEq, Repr

/-- The configuration that decides how a connection is made. -/
structure Config where
  /-- The congestion control option. -/
  cCongCtl : Char
  /-- The application protocol. -/
  alpn : List Char
  /-- The proxy type is MASQUE. -/
  proxyMasque : Bool
  /-- The VPN policy asks for a physical interface. -/
  forcePhysical : Bool
  /-- The network handle the caller chose, 0 for none. -/
  androidNetHandle : Nat
  deriving DecidableEq, Repr

/-- `strncasecmp(alpn, "h3", 2) == 0`: the connection is reported as an HTTP/3 one. -/
def Config.isH3 (c : Config) : Bool := (c.alpn.take 2).map Char.toLower == ['h', '3']

/-- The congestion controls that the build knows. -/
def Config.knownCongCtl (c : Config) : Bool := ['b', 'r', 'c', 'B'].contains c.cCongCtl

/-- A QUIC connection or a socket that is held, and whether it has been asked to close. -/
structure Handle where
  /-- Its close function has been called. -/
  closeAsked : Bool
  deriving DecidableEq, Repr

/-- The name of a received command. -/
inductive CommandName where
  | result
  | error
  | other
  deriving DecidableEq, Repr

/-- A received command as far as it is looked at. -/
structure Command where
  /-- The transaction it answers, if it has one. -/
  transId : Option Int
  /-- Its name. -/
  name : CommandName
  deriving DecidableEq, Repr

/-- A received packet: a command, or one of another type. -/
inductive Packet where
  | command (c : Command)
  | other
  deriving DecidableEq, Repr

/-- A block of HTTP/3 header fields. -/
abbrev Headers := List (List Char × List Char)

/-- Calls that enter the engine, or the socket only, between two close checks. -/
inductive EngineCall where
  | sendPacket
  | restart
  | closeStream
  | onCheckAvailable
  | onRestart (result : BCRESULT)
  | masqueSendDatagram
  | masqueOnTunneledPacket
  deriving DecidableEq, Repr

/-- The posted tasks. -/
inductive Task where
  | connect (pStub : Nat)
  | close
  | engineCall (call : EngineCall)
  | nextTick
  | udpClosed
  | masqueConnectToProxy
  | masqueOnTunnelReady (result : BCRESULT)
  | masqueOnTunnelClosed
  deriving DecidableEq, Repr

/-- The functions that timers run. -/
inductive Timer where
  | connectTimeout
  | engine
  deriving DecidableEq, Repr

/-- What a connection is told and what it does, as far as the outside sees it. -/
inductive Entry where
  /-- `OnExecDone` for the stub of a `Connect` call. -/
  | execDone (pStub : Nat) (result : BCRESULT)
  /-- A command packet was processed. -/
  | received (c : Command)
  /-- HTTP/3 response headers were read, or could not be read. -/
  | receivedHeaders (headers : Option Headers)
  /-- The engine announced a connection. -/
  | connCreated
  /-- The engine announced the end of a connection. -/
  | connClosed
  /-- The engine was asked to close the connection. -/
  | jqcConnClose
  /-- The socket was asked to close. -/
  | udpClose
  /-- The tunnel was asked to close. -/
  | tunnelClose
  /-- The event queue was detached. -/
  | detach
  /-- The `timeout_cb` of an engine timer was called. -/
  | timeoutCb (timer : Nat)
  /-- The connect command was sent. -/
  | sendConnect
  /-- The inner connection was told the outcome of the tunnel. -/
  | tunnelReady (result : BCRESULT)
  deriving DecidableEq, Repr

/-- Whether the connection is inside the engine. An `unchecked` call may return without a
close check. Once the engine has dropped the connection, the call only returns. -/
inductive Phase where
  | idle
  | inEngine (unchecked : Bool)
  | leaving (unchecked : Bool)
  deriving DecidableEq, Repr

/-- A client connection. The last fields are a record kept by the model. -/
structure SMPConnection where
  /-- The configuration. -/
  config : Config
  /-- The posted tasks and timers. -/
  queue : EventQueue Task Timer
  /-- Where control is. -/
  phase : Phase
  /-- `state_`. -/
  state : ConnState
  /-- `new_state_`: `freed` once a close is requested. -/
  newState : ConnState
  /-- `close_status_`. -/
  closeStatus : BCRESULT
  /-- `keep_working_`: calls are accepted. -/
  keepWorking : Bool
  /-- `conn_`. -/
  conn : Option Handle
  /-- `h3_conn_` is not NULL. -/
  h3Conn : Bool
  /-- `udp_socket_`. -/
  udpSocket : Option Handle
  /-- `connect_rpc_`: the stub of the pending connect. -/
  connectRpc : Option Nat
  /-- `connect_timer_id_`. -/
  connectTimerId : Nat
  /-- `webtransport_`. -/
  webtransport : Bool
  /-- `cert_verify_error_` is not empty. -/
  certVerifyError : Bool
  /-- `masque_role_`. -/
  masqueRole : MasqueRole
  /-- `masque_tunnel_` is not NULL. -/
  masqueTunnel : Bool
  /-- `masque_tunnel_closing_`. -/
  masqueTunnelClosing : Bool
  /-- `masque_inner_` is not NULL. -/
  masqueInner : Bool
  /-- `masque_tunnel_ready_`. -/
  masqueTunnelReady : Bool
  /-- Every accepted `Connect` call brings a stub of its own; this is the next one. -/
  nextStub : Nat
  /-- The timer numbers the engine holds. -/
  issued : List Nat
  /-- The timers that the engine has set or updated and that have neither been unset nor
  run out. -/
  engineTimers : List Nat
  /-- What happened so far. -/
  trace : List Entry

namespace SMPConnection

/-- A connection after `Create`. A tunnel is given its role and its inner connection. -/
def create (config : Config) (tunnel : Bool) : SMPConnection where
  config := config
  queue := EventQueue.empty
  phase := .idle
  state := .init
  newState := .max
  closeStatus := .success
  keepWorking := true
  conn := none
  h3Conn := false
  udpSocket := some ⟨false⟩
  connectRpc := none
  connectTimerId := 0
  webtransport := false
  certVerifyError := false
  masqueRole := if tunnel then .tunnel else .none
  masqueTunnel := false
  masqueTunnelClosing := false
  masqueInner := tunnel
  masqueTunnelReady := false
  nextStub := 0
  issued := []
  engineTimers := []
  trace := []

variable (s : SMPConnection)

/-- Record what happens. -/
def note (e : Entry) : SMPConnection := { s with trace := s.trace ++ [e] }

/-- `PostTask`. -/
def postTask (t : Task) : SMPConnection := { s with queue := s.queue.postTask t }

/-- `_set_state`. -/
def setState (state : ConnState) (status : BCRESULT) : SMPConnection :=
  { s with newState := state, closeStatus := status }

/-- `state_` is assigned. -/
def withState (state : ConnState) : SMPConnection := { s with state := state }

/-- The queue after the connect timer has been unscheduled, if there is one. -/
def connectTimerQueue : EventQueue Task Timer :=
  if 0 < s.connectTimerId then s.queue.unscheduleTask s.connectTimerId false else s.queue

/-- The stub that `_NotifyConnectResult` reports: without one the pending connect is meant. -/
def reported (pStub : Option Nat) : Option Nat := pStub.or s.connectRpc

/-- The report is about the pending connect. -/
def completes (pStub : Option Nat) : Bool :=
  (s.reported pStub).isSome && s.reported pStub = s.connectRpc

/-- `_NotifyConnectResult`: a pending connect that is reported is no longer pending. -/
def notifyConnectResult (pStub : Option Nat) (result : BCRESULT) : SMPConnection :=
  { s with
    trace := s.trace ++ ((s.reported pStub).map fun stub => Entry.execDone stub result).toList
    connectRpc := if s.completes pStub then none else s.connectRpc
    queue := if s.completes pStub then s.connectTimerQueue else s.queue
    connectTimerId := if s.completes pStub then 0 else s.connectTimerId }

/-- The first part of `_CloseCheck`: the engine is asked to close its connection. -/
def beginClosing : SMPConnection :=
  if ConnState.init.val < s.state.val then
    { s with
      keepWorking := false
      trace := s.trace ++ (s.conn.map fun _ => Entry.jqcConnClose).toList
      conn := s.conn.map fun _ => ⟨true⟩
      queue := s.connectTimerQueue
      connectTimerId := 0
      state := .closingQuic }
  else s

/-- The second part of `_CloseCheck`: once the engine's connection is gone, the socket is
asked to close. -/
def closeQuic : SMPConnection :=
  if s.state = .closingQuic ∧ s.conn = none then
    { s with
      queue := s.queue.unscheduleAllTasks
      trace := s.trace ++ (s.udpSocket.map fun _ => Entry.udpClose).toList
      udpSocket := s.udpSocket.map fun _ => ⟨true⟩
      state := .closingSock }
  else s

/-- The tunnel is asked to close, once. -/
def closeTunnel : SMPConnection :=
  if s.masqueTunnelClosing then s
  else { s with masqueTunnelClosing := true, trace := s.trace ++ [.tunnelClose] }

/-- `Detach`, in the freed state. -/
def detach : SMPConnection :=
  { s with
    queue := s.queue.unscheduleAllTasks
    trace := s.trace ++ [.detach]
    state := .freed }

/-- The third part of `_CloseCheck`: once the socket is gone, the tunnel is asked to close,
and once that is gone too, the connection is freed. -/
def closeSock : SMPConnection :=
  if s.state = .closingSock ∧ s.udpSocket = none then
    if s.masqueRole = .inner ∧ s.masqueTunnel then s.closeTunnel
    else (s.notifyConnectResult none s.closeStatus).detach
  else s

/-- The steps that `_CloseCheck` takes towards the freed state. -/
def ladder : SMPConnection := s.beginClosing.closeQuic.closeSock

/-- `_CloseCheck`: whether the connection is closing, after going on with that. -/
def closeCheck : SMPConnection × Bool :=
  if s.state.val ≤ s.newState.val ∧ ConnState.freed.val < s.state.val then (s, false)
  else (s.ladder, true)

/-- The body runs unless the close check tells that the connection is closing. -/
def guarded (body : SMPConnection → SMPConnection) : SMPConnection :=
  if s.closeCheck.2 then s.closeCheck.1 else body s.closeCheck.1

/-- The end of most tasks: a close check whose answer nobody asks for. -/
def checked : SMPConnection := s.closeCheck.1

/-- A close request: nothing new when the connection is closing already. -/
def requestClose (status : BCRESULT) : SMPConnection :=
  s.guarded fun s => (s.setState .freed status).checked

/-- Timer calls of the engine. -/
inductive TimerCall where
  | set
  | update (timer : Nat)
  | unset (timer : Nat) (onlyCancel : Bool)
  | nextTick
  deriving DecidableEq, Repr

/-- `on_timer_set`, `on_timer_update`, `on_timer_unset` and `on_timer_next_tick`. The engine
passes only the numbers it holds. -/
def onTimer : TimerCall → SMPConnection
  | .set =>
    { s with
      queue := (s.queue.scheduleTask 0 .engine).1
      issued := (s.queue.scheduleTask 0 .engine).2 :: s.issued
      engineTimers := (s.queue.scheduleTask 0 .engine).2 :: s.engineTimers }
  | .update timer =>
    if timer ∈ s.issued then
      { s with
        queue := (s.queue.scheduleTask timer .engine).1
        engineTimers := (s.queue.scheduleTask timer .engine).2 :: s.engineTimers }
    else s
  | .unset timer onlyCancel =>
    if timer ∈ s.issued then
      { s with
        queue := s.queue.unscheduleTask timer onlyCancel
        issued := if onlyCancel then s.issued else s.issued.filter (· ≠ timer)
        engineTimers := s.engineTimers.filter (· ≠ timer) }
    else s
  | .nextTick => s.postTask .nextTick

/-- What the calls of a task to other components return. -/
structure Env where
  /-- The index of a physical interface, if one is up. -/
  physicalIfindex : Int
  /-- `CreateMasqueTunnel` returns a tunnel. -/
  tunnelCreated : Bool
  /-- `MasqueDatagramMss` of the tunnel. -/
  datagramMss : Nat
  /-- The result of `TextToSockaddr`. -/
  hostResult : BCRESULT
  /-- `jqc_connect` returns NULL, or makes a connection and these timer calls. -/
  jqcConnect : Option (List TimerCall)
  /-- The result of scheduling the connect timer. -/
  scheduleResult : BCRESULT
  deriving DecidableEq, Repr

/-- `OnConnCreate` and `OnH3ConnCreate`. -/
def onConnCreate : SMPConnection :=
  { s with
    trace := s.trace ++ [.connCreated]
    h3Conn := s.h3Conn || s.config.isH3
    conn := if s.config.isH3 then s.conn else some ⟨false⟩ }

/-- The connection runs inside a tunnel, which there is or is not. -/
def setInner (tunnel : Bool) : SMPConnection :=
  { s with masqueRole := .inner, masqueTunnel := tunnel }

/-- `webtransport_` is assigned. -/
def setWebtransport (webtransport : Bool) : SMPConnection :=
  { s with webtransport := webtransport }

/-- `MasqueStartTunnel`. -/
def masqueStartTunnel (env : Env) : SMPConnection × BCRESULT :=
  if env.tunnelCreated then (s.setInner true, .success)
  else ((s.setInner false).notifyConnectResult none .failure, .failure)

/-- The call of `jqc_connect`. -/
def jqcConnect : Option (List TimerCall) → SMPConnection × BCRESULT
  | none => (s, .failure)
  | some calls => (calls.foldl onTimer s.onConnCreate, .success)

/-- `inner_mss`: the room for packets in the tunnel. -/
def innerMss (env : Env) : Nat := if s.masqueTunnel then env.datagramMss else 0

/-- `Connect_Internal` after its argument checks. -/
def connectEngine (env : Env) : SMPConnection × BCRESULT :=
  if s.masqueRole = .inner ∧ s.innerMss env = 0 then (s, .failure)
  else if env.hostResult ≠ .success then (s, env.hostResult)
  else s.jqcConnect env.jqcConnect

/-- `Connect_Internal`. -/
def connectInternal (env : Env) : SMPConnection × BCRESULT :=
  if s.masqueRole = .none ∧ s.config.proxyMasque then
    s.masqueStartTunnel env
  else if ¬ s.config.knownCongCtl then (s, .invalidArg)
  else (s.setWebtransport (s.webtransport || s.config.isH3)).connectEngine env

/-- The connect timer is started and the stub kept, or the stub gets the error. -/
def startConnectTimer (pStub : Nat) (env : Env) : SMPConnection :=
  if env.scheduleResult ≠ .success then
    (s.notifyConnectResult (some pStub) env.scheduleResult).setState .freed env.scheduleResult
  else
    { s with
      queue := (s.queue.scheduleTask s.connectTimerId .connectTimeout).1
      connectTimerId := (s.queue.scheduleTask s.connectTimerId .connectTimeout).2
      connectRpc := some pStub }

/-- The part of the `Connect` task that brings the connection up. -/
def startConnect (pStub : Nat) (env : Env) : SMPConnection :=
  if (s.connectInternal env).2 ≠ .success then
    (((s.connectInternal env).1.notifyConnectResult (some pStub)
      (s.connectInternal env).2).setState .freed (s.connectInternal env).2).withState .handshake
  else ((s.connectInternal env).1.startConnectTimer pStub env).withState .handshake

/-- The task of `Connect`. -/
def connectTask (pStub : Nat) (env : Env) : SMPConnection :=
  s.guarded fun s =>
    checked <|
      if ConnState.init.val < s.state.val then
        s.notifyConnectResult (some pStub) .alreadyRunning
      else if s.config.forcePhysical ∧ s.config.androidNetHandle = 0 ∧ env.physicalIfindex ≤ 0 then
        s.notifyConnectResult (some pStub) .noPhysicalInterface
      else s.startConnect pStub env

/-- `Close` posts its task while calls are accepted. -/
def close : SMPConnection := if s.keepWorking then s.postTask .close else s

/-- The engine is entered. -/
def enterEngine (unchecked : Bool) : SMPConnection := { s with phase := .inEngine unchecked }

/-- `MasqueOnConnectUdpResponse`. -/
def masqueOnConnectUdpResponse (ok : Bool) : SMPConnection :=
  if s.masqueTunnelReady ∧ ok then s
  else
    { s with
      masqueTunnelReady := s.masqueTunnelReady || ok
      trace := s.trace ++
        if s.masqueInner then [.tunnelReady (if ok then .success else .failure)] else [] }

/-- The task of `MasqueConnectToProxy`. -/
def masqueConnectToProxyTask (env : Env) : SMPConnection :=
  s.guarded fun s =>
    if ConnState.init.val < s.state.val then s
    else
      checked <|
        if ((s.withState .handshake).connectInternal env).2 ≠ .success then
          ((s.withState .handshake).connectInternal env).1.masqueOnConnectUdpResponse false
        else ((s.withState .handshake).connectInternal env).1

/-- `MasqueOnTunnelReady`. -/
def masqueOnTunnelReadyTask (result : BCRESULT) (env : Env) : SMPConnection :=
  s.guarded fun s =>
    checked <|
      if result ≠ .success then (s.notifyConnectResult none .failure).setState .freed .failure
      else if (s.connectInternal env).2 ≠ .success then
        ((s.connectInternal env).1.notifyConnectResult none (s.connectInternal env).2).setState
          .freed (s.connectInternal env).2
      else (s.connectInternal env).1

/-- The connection fails without its tunnel. -/
def failWithoutTunnel : SMPConnection :=
  if s.state = .init then (s.notifyConnectResult none .netDown).setState .freed .netDown
  else if ConnState.init.val < s.state.val then s.setState .freed .netDown
  else s

/-- The tunnel is gone. -/
def dropTunnel : SMPConnection := { s with masqueTunnel := false, masqueTunnelClosing := false }

/-- `MasqueOnTunnelClosed`. -/
def masqueOnTunnelClosedTask : SMPConnection := s.dropTunnel.failWithoutTunnel.checked

/-- Whether a call goes on into the engine. -/
def entersEngine : EngineCall → Bool
  | .sendPacket => s.conn.isSome || s.h3Conn
  | .restart => false
  | .closeStream => s.conn.isSome || s.h3Conn
  | .onCheckAvailable => s.conn.isSome && s.udpSocket.isSome
  | .onRestart result => result = .success && s.udpSocket.isSome && (s.conn.isSome || s.h3Conn)
  | .masqueSendDatagram => s.h3Conn
  | .masqueOnTunneledPacket => s.conn.isSome

/-- The tasks that call into the engine between two close checks. -/
def engineCallTask (call : EngineCall) : SMPConnection :=
  s.guarded fun s => if s.entersEngine call then s.enterEngine false else s.checked

/-- The task of `on_timer_next_tick`. -/
def nextTickTask : SMPConnection := if s.conn.isSome then s.enterEngine false else s

/-- The socket is gone. -/
def dropSocket : SMPConnection := { s with udpSocket := none }

/-- The task of `OnUdpClosed`. -/
def udpClosedTask : SMPConnection := s.dropSocket.requestClose .netDown

/-- A posted task runs. -/
def perform (env : Env) : Task → SMPConnection
  | .connect pStub => s.connectTask pStub env
  | .close => s.requestClose .success
  | .engineCall call => s.engineCallTask call
  | .nextTick => s.nextTickTask
  | .udpClosed => s.udpClosedTask
  | .masqueConnectToProxy => s.masqueConnectToProxyTask env
  | .masqueOnTunnelReady result => s.masqueOnTunnelReadyTask result env
  | .masqueOnTunnelClosed => s.masqueOnTunnelClosedTask

/-- `_OnConnectTimeout`. -/
def onConnectTimeout : SMPConnection :=
  ((s.notifyConnectResult none .timedOut).setState .freed .timedOut).checked

/-- The function of an engine timer. -/
def onEngineTimeout (timer : Nat) : SMPConnection :=
  if s.conn.isSome then (s.note (.timeoutCb timer)).enterEngine false else s

/-- A timer runs out. -/
def expire (timer : Nat) : SMPConnection :=
  match s.queue.expire timer with
  | none => s
  | some (.connectTimeout, queue) => onConnectTimeout { s with queue := queue }
  | some (.engine, queue) =>
    onEngineTimeout { s with queue := queue, engineTimers := s.engineTimers.filter (· ≠ timer) }
      timer

/-- `OnRecvData`. -/
def onRecvData : SMPConnection :=
  s.guarded fun s =>
    if s.conn.isSome || s.h3Conn then s.enterEngine true else s

/-- `OnHandshakeFinished`, when the stream could be created or not. -/
def onHandshakeFinished (created : Bool) : SMPConnection :=
  if ¬ s.webtransport ∧ created ∧ s.connectRpc.isSome then
    (s.withState .connecting).note .sendConnect
  else s.withState .connecting

/-- `OnH3HandshakeFinished`, when the CONNECT-UDP request could be sent or not. -/
def onH3HandshakeFinished (sent : Bool) : SMPConnection :=
  if s.masqueRole = .tunnel ∧ ¬ sent then
    (s.withState .connecting).masqueOnConnectUdpResponse false
  else s.withState .connecting

/-- The peer accepts the pending connect. -/
def acceptConnect : SMPConnection := (s.withState .connected).notifyConnectResult none .success

/-- The peer refuses the pending connect. -/
def refuseConnect : SMPConnection :=
  ((s.withState .init).notifyConnectResult none .failure).close

/-- The answer to the pending connect. -/
def onConnectAnswer : CommandName → SMPConnection
  | .result => s.acceptConnect
  | .error => s.refuseConnect
  | .other => s

/-- `ProcessPacket`. -/
def processPacket : Packet → SMPConnection
  | .command c =>
    if c.transId = some 1 ∧ s.connectRpc.isSome then
      (s.note (.received c)).onConnectAnswer c.name
    else s.note (.received c)
  | .other => s

/-- `SMPStream::OnRead`, with the packets that the stream's parser completes. -/
def onStreamRead (packets : List Packet) : SMPConnection :=
  s.guarded fun s => packets.foldl processPacket s

/-- The name of the status field. -/
def statusName : List Char := [':', 's', 't', 'a', 't', 'u', 's']

/-- The value of the first status field. -/
def status (headers : Headers) : Option (List Char) :=
  (headers.find? fun field => field.1 = statusName).map Prod.snd

/-- The test of a tunnel on the answer to its CONNECT-UDP request. -/
def beginsWithTwo (headers : Option Headers) : Bool :=
  match headers.bind status with
  | some (c :: _) => c = '2'
  | _ => false

/-- `OnH3RequestRecvHeaders`. -/
def onH3RequestRecvHeaders (headers : Option Headers) : SMPConnection :=
  if s.masqueRole = .tunnel then
    (s.note (.receivedHeaders headers)).masqueOnConnectUdpResponse (beginsWithTwo headers)
  else if s.connectRpc.isSome then
    if headers.isSome then (s.note (.receivedHeaders headers)).acceptConnect
    else (s.note (.receivedHeaders headers)).refuseConnect
  else s.note (.receivedHeaders headers)

/-- `H3Stream::OnRead` when headers can be read. -/
def onH3Read (headers : Option Headers) : SMPConnection :=
  s.guarded fun s => s.onH3RequestRecvHeaders headers

/-- `on_conn_closing_notify`. -/
def onConnClosingNotify : SMPConnection :=
  if s.certVerifyError ∧ s.connectRpc.isSome then s.notifyConnectResult none .failure else s

/-- The handle that `OnClose` or `OnH3Close` drops. The engine keeps nothing of the
connection. -/
def dropConn : SMPConnection :=
  { s with
    trace := s.trace ++ [.connClosed]
    issued := []
    engineTimers := []
    h3Conn := if s.config.isH3 then false else s.h3Conn
    conn := if s.config.isH3 then s.conn else none
    queue := if s.config.isH3 then s.queue else s.queue.unscheduleAllTasks }

/-- `OnClose` and `OnH3Close`. -/
def onClose : SMPConnection := s.dropConn.requestClose .netDown

/-- What the engine calls while it runs. -/
inductive Callback where
  | handshakeFinished (ok : Bool)
  | streamRead (packets : List Packet)
  | h3Read (headers : Option Headers)
  | certVerifyFailed
  | connClosing
  | connClose
  | timer (call : TimerCall)
  deriving DecidableEq, Repr

/-- A callback of the engine. Nothing follows the end of the connection. -/
def onCallback (unchecked : Bool) : Callback → SMPConnection
  | .handshakeFinished ok =>
    if s.config.isH3 then s.onH3HandshakeFinished ok else s.onHandshakeFinished ok
  | .streamRead packets => s.onStreamRead packets
  | .h3Read headers => if s.config.isH3 then s.onH3Read headers else s
  | .certVerifyFailed => { s with certVerifyError := true }
  | .connClosing => s.onConnClosingNotify
  | .connClose => { s.onClose with phase := .leaving unchecked }
  | .timer call => s.onTimer call

/-- A call into the engine returns. A failed `OnRecvData` returns without a close check. -/
def leave (ok : Bool) : SMPConnection :=
  match s.phase with
  | .idle => s
  | .inEngine unchecked | .leaving unchecked =>
    if unchecked && !ok then { s with phase := .idle }
    else checked { s with phase := .idle }

/-- The conditions under which calls post their tasks. -/
def posts : EngineCall → Bool
  | .onRestart _ | .masqueOnTunneledPacket => true
  | .masqueSendDatagram => s.keepWorking && s.masqueRole = .tunnel
  | .sendPacket | .restart | .closeStream | .onCheckAvailable => s.keepWorking

/-- What can happen to a connection. -/
inductive Event where
  /-- `Connect` with a stub of its own. -/
  | connect
  /-- `Close`. -/
  | close
  /-- A call that posts a task for the engine. -/
  | engineCall (call : EngineCall)
  /-- `OnUdpClosed`. -/
  | udpClosed
  /-- `MasqueConnectToProxy`. -/
  | masqueConnectToProxy
  /-- The tunnel posts its outcome. -/
  | tunnelReady (result : BCRESULT)
  /-- The tunnel posts its end. -/
  | tunnelClosed
  /-- The oldest task runs. -/
  | runTask (env : Env)
  /-- A timer runs out. -/
  | timerExpires (timer : Nat)
  /-- A datagram arrives. -/
  | recvData
  /-- The engine calls back. -/
  | callback (callback : Callback)
  /-- The engine returns. -/
  | leave (ok : Bool)
  deriving DecidableEq, Repr

/-- `Connect` is accepted while calls are. -/
def connect : SMPConnection :=
  if s.keepWorking then
    { s.postTask (.connect s.nextStub) with nextStub := s.nextStub + 1 }
  else s

/-- The oldest task is taken from the queue. -/
def taken (rest : List Task) : SMPConnection :=
  { s with queue := { s.queue with events := rest } }

/-- The oldest task is taken from the queue and run. -/
def runTask (env : Env) : SMPConnection :=
  match s.queue.events with
  | [] => s
  | task :: rest => (s.taken rest).perform env task

/-- One event. Tasks, timers and datagrams wait until the engine has returned. -/
def step : Event → SMPConnection
  | .connect => s.connect
  | .close => s.close
  | .engineCall call => if s.posts call then s.postTask (.engineCall call) else s
  | .udpClosed => s.postTask .udpClosed
  | .masqueConnectToProxy => if s.keepWorking then s.postTask .masqueConnectToProxy else s
  | .tunnelReady result => s.postTask (.masqueOnTunnelReady result)
  | .tunnelClosed => s.postTask .masqueOnTunnelClosed
  | .runTask env => if s.phase = .idle then s.runTask env else s
  | .timerExpires timer => if s.phase = .idle then s.expire timer else s
  | .recvData => if s.phase = .idle then s.onRecvData else s
  | .callback callback =>
    match s.phase with
    | .inEngine unchecked => s.onCallback unchecked callback
    | _ => s
  | .leave ok => s.leave ok

end SMPConnection

end Conn
