import TTSignal.Runs
import Mathlib.Data.List.AList

/-!
# The QUIC server and its connections

`SMPServer` keeps a map from connection ids to its `SMPServerConnection` objects. Every
connection runs its tasks on an event queue of its own, the server posts its tasks to the
event queue of the runtime, and the QUIC engine calls back into a connection. The model
keeps the fields that decide which connections stand in the map, when a connection or the
server is closed, and which QUIC connection a connection object holds.
-/

namespace Server

/-- A QUIC connection id (`xqc_cid_t`), compared by its bytes. -/
abbrev Cid := List UInt8

/-- A received packet. Only its source id is looked at, the rest is handed to the engine. -/
structure RecvInfo where
  /-- The source connection id. -/
  scid : Cid
  deriving DecidableEq

/-- The states of a connection (`ConnState`). -/
inductive ConnState where
  | freed
  | closingQuic
  | init
  | handshake
  | connecting
  | connected
  | max
  deriving DecidableEq

/-- The number of a state. -/
def ConnState.val : ConnState → ℕ
  | .freed => 0
  | .closingQuic => 1
  | .init => 2
  | .handshake => 3
  | .connecting => 4
  | .connected => 5
  | .max => 9

/-- What a callback of the engine tells a connection. -/
inductive Callback where
  /-- The QUIC connection has ended (`OnClose`). -/
  | closeNotify
  | handshakeFinished
  | updateCid (newCid : Cid)
  /-- The connect command was received (`ProcessPacket`). -/
  | connect
  /-- A packet is to be sent: the socket takes it, or fails. -/
  | writePacket (sent : Bool)
  deriving DecidableEq

/-- What the engine does while a received packet is handled. -/
structure EngineAnswer where
  /-- The result of `jqc_engine_create_server_connection`, if it is called. -/
  created : Option ℕ
  /-- The callbacks of `jqc_conn_packet_process`. -/
  callbacks : List Callback
  /-- `jqc_conn_packet_process` succeeds. -/
  processed : Bool
  /-- The callbacks of `jqc_conn_finish_recv`. -/
  finish : List Callback

/-- The tasks of a connection. -/
inductive ConnTask where
  | recvData (info : RecvInfo) (initial : Bool)
  | accept (bAccept : Bool)
  | close
  | nextTick
  deriving DecidableEq

/-- What a connection does, as far as the outside sees it. -/
inductive ConnEntry where
  /-- `jqc_engine_create_server_connection` was called: `conn_` before and after. -/
  | serverConnection (before after : Option ℕ)
  /-- The application was told of the connection (`OnAccept`). -/
  | accepted
  /-- The engine was asked to close the connection. -/
  | connClose (conn : ℕ)
  /-- The application was told of the end of the connection (`OnClosed`). -/
  | closed
  deriving DecidableEq

/-- A connection of the server. The last three fields are a record kept by the model. -/
structure SMPServerConnection where
  /-- `conn_`: the QUIC connection. -/
  conn : Option ℕ
  /-- `cid_`: the current connection id. -/
  cid : Cid
  /-- `state_`. -/
  state : ConnState
  /-- `new_state_`: `freed` once a close is requested. -/
  newState : ConnState
  /-- `keep_working_`: tasks are accepted. -/
  keepWorking : Bool
  /-- The posted tasks, oldest first. -/
  tasks : List ConnTask
  /-- `Detach` was called: the event queue is about to shut down. -/
  detached : Bool
  /-- `OnEventProcShutdown` has run. -/
  shutDown : Bool
  /-- The id that `Create` was given. -/
  createdUnder : Cid
  /-- What happened so far. -/
  trace : List ConnEntry

namespace SMPServerConnection

/-- A connection after `Create`. -/
def create (cid : Cid) : SMPServerConnection where
  conn := none
  cid := cid
  state := .handshake
  newState := .max
  keepWorking := true
  tasks := []
  detached := false
  shutDown := false
  createdUnder := cid
  trace := []

variable (c : SMPServerConnection)

/-- A task is posted, if the connection still takes tasks. -/
def postTask (t : ConnTask) : SMPServerConnection :=
  if c.keepWorking then { c with tasks := c.tasks ++ [t] } else c

/-- `_set_state`. -/
def setState (state : ConnState) : SMPServerConnection := { c with newState := state }

/-- The value that `_CloseCheck` returns. -/
def closing : Bool :=
  !(decide (c.state.val ≤ c.newState.val) && decide (ConnState.freed.val < c.state.val))

/-- The first part of `_CloseCheck`: the engine is asked to close its connection. -/
def beginClosing : SMPServerConnection :=
  if ConnState.init.val < c.state.val then
    { c with
      keepWorking := false
      trace := c.trace ++ (c.conn.map ConnEntry.connClose).toList
      state := .closingQuic }
  else c

/-- The second part of `_CloseCheck`: once the QUIC connection is gone, the event queue is
detached. -/
def finishClosing : SMPServerConnection :=
  if c.state = .closingQuic ∧ c.conn = none then
    { c with detached := true, state := .freed }
  else c

/-- `_CloseCheck`. -/
def closeCheck : SMPServerConnection :=
  if c.closing then c.beginClosing.finishClosing else c

/-- A close is requested and begun, unless one is already under way. -/
def requestClose : SMPServerConnection :=
  if c.closing then c.closeCheck else (c.setState .freed).closeCheck

/-- `OnClose`. -/
def onClose : SMPServerConnection := { c with conn := none }.requestClose

/-- `WritePacket`. -/
def writePacket (sent : Bool) : SMPServerConnection :=
  (if sent then c else c.setState .freed).closeCheck

/-- A callback of the engine. -/
def callback : Callback → SMPServerConnection
  | .closeNotify => c.onClose
  | .handshakeFinished => { c with state := .connecting }
  | .updateCid newCid => { c with cid := newCid }
  | .connect => { c with state := .connected }
  | .writePacket sent => c.writePacket sent

/-- Callbacks of the engine, one after the other. -/
def callbacks (cbs : List Callback) : SMPServerConnection :=
  Runs.run SMPServerConnection.callback c cbs

/-- `jqc_engine_create_server_connection` is called for an initial packet. -/
def assignConn (created : Option ℕ) : SMPServerConnection :=
  { c with conn := created, trace := c.trace ++ [ConnEntry.serverConnection c.conn created] }

/-- The application is told of a new connection (`NotifyConnCreated`). -/
def notifyConnCreated : SMPServerConnection := { c with trace := c.trace ++ [ConnEntry.accepted] }

/-- The QUIC connection of an initial packet is created. -/
def createServerConnection (created : Option ℕ) : SMPServerConnection :=
  if created.isSome then (c.assignConn created).notifyConnCreated
  else (c.assignConn created).setState .freed

/-- A received packet is given to the QUIC connection, if there is one. -/
def processPacket (answer : EngineAnswer) : SMPServerConnection :=
  if c.conn.isSome then
    if answer.processed then ((c.callbacks answer.callbacks).callbacks answer.finish).closeCheck
    else c.callbacks answer.callbacks
  else c.closeCheck

/-- The task of `ProcessRecvData`. -/
def recvData (initial : Bool) (answer : EngineAnswer) : SMPServerConnection :=
  if c.closing then c.closeCheck
  else if initial then (c.createServerConnection answer.created).processPacket answer
  else c.processPacket answer

/-- The task of `Accept`. -/
def accept (bAccept : Bool) : SMPServerConnection :=
  if c.closing then c.closeCheck
  else if bAccept then c else (c.setState .freed).closeCheck

/-- The task of `on_timer_next_tick`. -/
def nextTick (answer : EngineAnswer) : SMPServerConnection :=
  if c.closing then c.closeCheck
  else if c.conn.isSome then (c.callbacks answer.callbacks).closeCheck else c

/-- A task is run. -/
def runTask (answer : EngineAnswer) : ConnTask → SMPServerConnection
  | .recvData _ initial => c.recvData initial answer
  | .accept bAccept => c.accept bAccept
  | .close => c.requestClose
  | .nextTick => c.nextTick answer

end SMPServerConnection

/-- What can happen to a connection. -/
inductive ConnEvent where
  /-- `Close` is called. -/
  | close
  /-- `Accept` is called. -/
  | accept (bAccept : Bool)
  /-- The engine asks for its main logic to be run. -/
  | nextTick
  /-- `ProcessRecvData` is called. -/
  | processRecvData (info : RecvInfo) (initial : Bool)
  /-- The event queue runs its oldest task. -/
  | run (answer : EngineAnswer)
  /-- A timer of the engine calls back. -/
  | callback (cb : Callback)
  /-- The detached event queue shuts down (`OnEventProcShutdown`). -/
  | shutdown

/-- The event is a call that at most posts a task. -/
def ConnEvent.Posts : ConnEvent → Prop
  | .close | .accept _ | .nextTick | .processRecvData _ _ => True
  | .run _ | .callback _ | .shutdown => False

/-- How a connection handles an event. -/
def SMPServerConnection.step (c : SMPServerConnection) : ConnEvent → SMPServerConnection
  | .close => c.postTask .close
  | .accept bAccept => c.postTask (.accept bAccept)
  | .nextTick => { c with tasks := c.tasks ++ [.nextTick] }
  | .processRecvData info initial => c.postTask (.recvData info initial)
  | .run answer =>
    match c.tasks with
    | [] => c
    | t :: ts => if c.shutDown then c else { c with tasks := ts }.runTask answer t
  | .callback cb => if c.shutDown then c else c.callback cb
  | .shutdown =>
    if c.detached ∧ ¬ c.shutDown then { c with shutDown := true, trace := c.trace ++ [.closed] }
    else c

/-- The states of the server (`ServerState`). -/
inductive ServerState where
  | freed
  | init
  | drain
  | working
  | max
  deriving DecidableEq

/-- The number of a state. -/
def ServerState.val : ServerState → ℕ
  | .freed => 0
  | .init => 1
  | .drain => 2
  | .working => 3
  | .max => 9

/-- The tasks that the server posts to the runtime. -/
inductive Task where
  | createConnection (info : RecvInfo)
  | closeCheck
  | close
  | udpClosed
  | onClosed
  deriving DecidableEq

/-- What the server does, as far as the outside sees it. -/
inductive Entry where
  /-- The socket was asked to close. -/
  | udpClose
  /-- The engine was destroyed. -/
  | engineDestroy
  /-- The application was told of the end of the server (`OnClosed`). -/
  | closed
  /-- The application was given an initial packet (`OnNewConn`). -/
  | newConn (info : RecvInfo)
  deriving DecidableEq

/-- The server and the connection objects it has created. -/
structure SMPServer where
  /-- `state_`. -/
  state : ServerState
  /-- `new_state_`: `freed` once a close is requested. -/
  newState : ServerState
  /-- `udp_socket_` is not NULL. -/
  udpSocket : Bool
  /-- `conns_map_`: the connections by connection id. -/
  connsMap : AList fun _ : Cid => ℕ
  /-- `next_conn_id_`. -/
  nextConnId : ℕ
  /-- `total_allocated_conns_`. -/
  totalAllocatedConns : ℕ
  /-- `total_freed_conns_`. -/
  totalFreedConns : ℕ
  /-- The posted tasks, oldest first. -/
  tasks : List Task
  /-- The connection objects by the number `Create` was given. -/
  conns : ℕ → Option SMPServerConnection
  /-- What happened so far. -/
  trace : List Entry

namespace SMPServer

/-- A server after `Create`. -/
def create : SMPServer where
  state := .working
  newState := .max
  udpSocket := true
  connsMap := ∅
  nextConnId := 1
  totalAllocatedConns := 0
  totalFreedConns := 0
  tasks := []
  conns := fun _ => none
  trace := []

variable (s : SMPServer)

/-- A task is posted to the runtime. -/
def postTask (t : Task) : SMPServer := { s with tasks := s.tasks ++ [t] }

/-- `_set_state`. -/
def setState (state : ServerState) : SMPServer := { s with newState := state }

/-- A connection handles an event. -/
def connStep (id : ℕ) (e : ConnEvent) : SMPServer :=
  { s with conns := Function.update s.conns id ((s.conns id).map fun c => c.step e) }

/-- The value that `_CloseCheck` returns. -/
def closing : Bool :=
  !(decide (s.state.val ≤ s.newState.val) && decide (ServerState.freed.val < s.state.val))

/-- The first part of `_CloseCheck`: all connections are asked to close. -/
def beginDrain : SMPServer :=
  if s.state = .working then
    { s.connsMap.entries.foldl (fun s entry => s.connStep entry.2 .close) s with state := .drain }
  else s

/-- The second part of `_CloseCheck`: without connections the socket is asked to close. -/
def endDrain : SMPServer :=
  if s.state = .drain ∧ s.connsMap.entries.length = 0 then
    { s with trace := s.trace ++ (if s.udpSocket then [.udpClose] else []), state := .init }
  else s

/-- The third part of `_CloseCheck`: without a socket the engine is destroyed. -/
def destroyEngine : SMPServer :=
  if s.state = .init ∧ s.udpSocket = false then
    { s with
      trace := s.trace ++ [.engineDestroy]
      tasks := s.tasks ++ [.onClosed]
      state := .freed }
  else s

/-- `_CloseCheck`. -/
def closeCheck : SMPServer :=
  if s.closing then s.beginDrain.endDrain.destroyEngine else s

/-- A close is requested and begun, unless one is already under way. -/
def requestClose : SMPServer :=
  if s.closing then s.closeCheck else (s.setState .freed).closeCheck

/-- A new connection is entered and given the initial packet. -/
def addConnection (info : RecvInfo) : SMPServer :=
  { s with
    conns := Function.update s.conns s.nextConnId
      (some ((SMPServerConnection.create info.scid).step (.processRecvData info true)))
    connsMap := s.connsMap.insert info.scid s.nextConnId
    nextConnId := s.nextConnId + 1
    totalAllocatedConns := s.totalAllocatedConns + 1 }

/-- The task of `CreateConnection`: the packet goes to the connection that its source id
stands for, or to a new one if the event queue of that can be made. -/
def createConnection (info : RecvInfo) (created : Bool) : SMPServer :=
  if s.closing then s.closeCheck
  else match s.connsMap.lookup info.scid with
    | some id => s.connStep id (.processRecvData info true)
    | none =>
      if created then (s.addConnection info).closeCheck
      else { s with nextConnId := s.nextConnId + 1 }

/-- `NotifyConnClosed`. -/
def notifyConnClosed (cid : Cid) : SMPServer :=
  { s with
    connsMap := s.connsMap.erase cid
    totalFreedConns := s.totalFreedConns + 1 }.postTask .closeCheck

/-- `OnEventProcShutdown` of a connection. -/
def connShutdown (id : ℕ) : SMPServer :=
  match s.conns id with
  | some c =>
    if c.detached ∧ ¬ c.shutDown then (s.notifyConnClosed c.cid).connStep id .shutdown else s
  | none => s

/-- A task is run. -/
def runTask (created : Bool) : Task → SMPServer
  | .createConnection info => s.createConnection info created
  | .closeCheck => s.closeCheck
  | .close => s.requestClose
  | .udpClosed => { s with udpSocket := false }.requestClose
  | .onClosed => { s with trace := s.trace ++ [.closed] }

end SMPServer

/-- What the engine finds in a received packet: nothing, a connection, or a new one. -/
inductive PreProcess where
  | failed
  | known (id : ℕ)
  | initOr0rtt
  deriving DecidableEq

/-- `OnRecvData` for one packet. -/
def SMPServer.recvPacket (s : SMPServer) : PreProcess × RecvInfo → SMPServer
  | (.failed, _) => s
  | (.known id, info) => s.connStep id (.processRecvData info false)
  | (.initOr0rtt, info) => { s with trace := s.trace ++ [.newConn info] }

/-- `OnRecvData`. -/
def SMPServer.onRecvData (s : SMPServer) (packets : List (PreProcess × RecvInfo)) : SMPServer :=
  if s.closing then s.closeCheck else (packets.foldl SMPServer.recvPacket s).closeCheck

/-- What can happen to the server. -/
inductive Event where
  /-- `CreateConnection` is called. -/
  | createConnection (info : RecvInfo)
  /-- `Close` is called. -/
  | close
  /-- The socket has received packets. -/
  | recvData (packets : List (PreProcess × RecvInfo))
  /-- The socket is closed (`OnUdpClosed`). -/
  | udpClosed
  /-- The runtime runs the oldest task; an event queue can be made, or not. -/
  | run (created : Bool)
  /-- Something happens to a connection. -/
  | conn (id : ℕ) (e : ConnEvent)

/-- How the server handles an event. -/
def SMPServer.step (s : SMPServer) : Event → SMPServer
  | .createConnection info => s.postTask (.createConnection info)
  | .close => s.postTask .close
  | .recvData packets => s.onRecvData packets
  | .udpClosed => s.postTask .udpClosed
  | .run created =>
    match s.tasks with
    | [] => s
    | t :: ts => { s with tasks := ts }.runTask created t
  | .conn id .shutdown => s.connShutdown id
  | .conn id e => s.connStep id e

end Server
