import TTSignal.Http.Connector
import Mathlib.Data.Finset.Basic

/-!
# The steps of an HTTP connector

Everything between two sections under the lock that other threads cannot tell apart is one
step, with the section it belongs to: what a connection does on its channel's thread, what a
posted task does, and each part of `Request`, `Close` and the destructor. The steps of all
threads may come in any order. The parser, the results of `Open` and `Send` and the reasons
why a channel fails come from outside.
-/

namespace Http

open Tcp (BCResult)

/-- The arguments of `Request`, as far as it tests them before it makes anything. -/
structure RequestArgs where
  /-- `created_`. -/
  created : Bool
  /-- A handler is given. -/
  handler : Bool
  /-- The calling thread is in `OnLog`. -/
  inLogCallback : Bool
  /-- `ParseUrl` succeeds. -/
  urlParsed : Bool
  /-- `BuildRequestText` succeeds. -/
  textBuilt : Bool
  /-- The `_PoolKey` of the configuration. -/
  key : String

/-- The tests at the start of `Request`. -/
def RequestArgs.precheck (args : RequestArgs) : BCResult :=
  if args.created = false then .notConnected
  else if args.handler = false then .invalidArg
  else if args.inLogCallback then notImplemented
  else if args.urlParsed = false then .invalidArg
  else if args.textBuilt = false then .invalidArg
  else .success

/-- What the parser makes of a block of data. -/
inductive Parsed where
  /-- The response is not complete. -/
  | more
  /-- The response is complete; `llhttp_should_keep_alive`. -/
  | complete (keepAlive : Bool)
  /-- A limit of the response is exceeded, or the parser fails. -/
  | failed (result : BCResult)
  deriving DecidableEq

/-- What a thread may do. -/
inductive Event where
  /-- `Request` is called. -/
  | call (args : RequestArgs)
  /-- A call of `Request` goes on, with the result of `Open` where it calls it. -/
  | proceed (r : RequestId) (result : BCResult)
  /-- A channel has become ready; sending or the timer may fail. -/
  | ready (ch : ChannelId) (failure : Option BCResult)
  /-- Application data of a channel. -/
  | data (ch : ChannelId) (parsed : Parsed)
  /-- The response timer of the connection that a channel serves. -/
  | timer (ch : ChannelId)
  /-- `_Fail` of a channel, for whatever reason. -/
  | fails (ch : ChannelId)
  /-- The task of `Adopt`. -/
  | adopt (ch : ChannelId) (failure : Option BCResult)
  /-- A channel has closed; `llhttp_finish` may complete the response. -/
  | closed (ch : ChannelId) (result : BCResult) (finishes : Bool)
  /-- A channel's thread goes on in a connection, with the result of `Open` where it calls
  it. -/
  | resume (c : ConnectionId) (result : BCResult)
  /-- Something posted or begun is done. -/
  | work (w : Work)
  /-- `Close` is called. -/
  | close
  /-- The destructor is called. -/
  | destroy
  /-- The wait of the destructor is over. -/
  | endWait
  /-- The second wait of the destructor is over. -/
  | endAbandon
  /-- The log sink is cleared. -/
  | clearSink
  /-- A channel starts to resolve a name. -/
  | resolve (ch : ChannelId)
  /-- A worker has resolved a name. -/
  | resolved
  /-- Something is logged by a channel. -/
  | logChannel (ch : ChannelId)
  /-- Something is logged by a worker. -/
  | logWorker
  /-- Something is logged by a connection. -/
  | logConnection (c : ConnectionId)
  /-- Something is logged by a call of `Request`. -/
  | logRequest (r : RequestId)
  /-- `OnLog` returns. -/
  | logged

namespace HttpConnector

variable (s : HttpConnector)

/-- Record what happens. -/
def note (a : Action) : HttpConnector := { s with trace := s.trace ++ [a] }

/-- Something is to be done. -/
def post (w : Work) : HttpConnector := { s with works := w :: s.works }

/-- A connection changes. -/
def setConnection (c : ConnectionId) (x : HttpConnection) : HttpConnector :=
  { s with connection := Function.update s.connection c x }

/-- A pooled channel changes. -/
def setPooled (p : PooledId) (x : PooledChannel) : HttpConnector :=
  { s with pooled := Function.update s.pooled p x }

/-- A channel changes. -/
def setChannel (ch : ChannelId) (x : Channel) : HttpConnector :=
  { s with channel := Function.update s.channel ch x }

/-- A call of `Request` goes on to another section. -/
def setPhase (r : RequestId) (phase : RequestPhase) : HttpConnector :=
  { s with request := Function.update s.request r { s.request r with phase := phase } }

/-- The thread of a connection's channel goes on. -/
def setActivity (c : ConnectionId) (a : Activity) : HttpConnector :=
  { s with activity := Function.update s.activity c a }

/-- A connection has come further. -/
def setStage (c : ConnectionId) (stage : ConnectionStage) : HttpConnector :=
  { s with stage := Function.update s.stage c stage }

/-- A pooled channel has come further. -/
def setPooledStage (p : PooledId) (stage : PooledStage) : HttpConnector :=
  { s with pooledStage := Function.update s.pooledStage p stage }

/-- A channel is owned by another object. -/
def setOwner (ch : ChannelId) (owner : ChannelHandler) : HttpConnector :=
  { s with owner := Function.update s.owner ch owner }

/-- `Close` of a channel. -/
def closeChannel (ch : ChannelId) : HttpConnector := s.setChannel ch (s.channel ch).close

/-- A channel's thread is in the code of a connection, or has left it. -/
def setInside (ch : ChannelId) (c : Option ConnectionId) : HttpConnector :=
  s.setChannel ch { s.channel ch with inside := c }

/-- `Cancel` of a connection. -/
def cancel (c : ConnectionId) : HttpConnector :=
  match (s.connection c).channel with
  | none => s
  | some ch => s.closeChannel ch

/-- `DispatchGuard::ArmLocked`. -/
def armLocked (t : Thread) (d : Dispatch) : HttpConnector :=
  { s with callbacksInFlight := s.callbacksInFlight + 1, guards := ⟨t, d⟩ :: s.guards }

/-- The destructor of an armed `DispatchGuard`. -/
def disarm (t : Thread) (d : Dispatch) : HttpConnector :=
  { s with
    callbacksInFlight := s.callbacksInFlight - 1
    guards := s.guards.erase ⟨t, d⟩ }

/-- `_DispatchDepthOn`. -/
def dispatchDepthOn (t : Thread) : ℕ := s.guards.countP fun g => g.thread = t

/-- A channel is deleted. -/
def deleteChannel (ch : ChannelId) (owner : ChannelHandler) : HttpConnector :=
  note { s with deleted := Function.update s.deleted ch true } (.deletedChannel ch owner)

/-- `~HttpConnection`. -/
def deleteConnection (c : ConnectionId) : HttpConnector :=
  match (s.connection c).channel with
  | none => s.note (.deletedConnection c)
  | some ch =>
    ((s.deleteChannel ch (.connection c)).setConnection c
      { s.connection c with channel := none }).note (.deletedConnection c)

/-- `Request` returns. -/
def returns (r : RequestId) (result : BCResult) : HttpConnector :=
  (s.setPhase r (.returned result)).note (.returned r result)

/-- What follows a possible call of `OnClosed`. -/
def goOn : Cont → HttpConnector
  | .done => s
  | .request r (.retry p) => s.setPhase r (.closeBorrowed p)
  | .request r (.giveUp result) => s.returns r result
  | .destructor =>
    match s.destructor with
    | .closing t => { s with destructor := .waiting t }
    | _ => s

/-- `OnClosed` is called if everything is drained, after one of the last things has been
removed. -/
def notifyOr (t : Thread) (k : Cont) : HttpConnector :=
  if s.MustNotify then
    (armLocked { s with closedNotified := true } t .closed).post (.onClosed t k)
  else s.goOn k

/-- `_NotifyClosedIfDrained`. -/
def notifyClosedIfDrained (t : Thread) (k : Cont) : HttpConnector :=
  if s.abandoned = true ∨ s.closing = false ∨ s.closedNotified = true then s.goOn k
  else if ¬ s.AllDrained then s.goOn k
  else if s.handler = false then goOn { s with closedNotified := true } k
  else (armLocked { s with closedNotified := true } t .closed).post (.onClosed t k)

/-! ### `PooledChannel` -/

/-- `PooledChannel::_ScheduleDestroy`. -/
def scheduleDestroy (p : PooledId) : Terminal → HttpConnector
  | .none => s
  | .closed => s.post (.deleteClosed p)
  | .detached => s.post (.deleteDetached p)

/-- `PooledChannel::Release`. -/
def release (p : PooledId) : HttpConnector :=
  (s.setPooled p { s.pooled p with held := false }).scheduleDestroy p (s.pooled p).pending

/-- `PooledChannel::OnChannelClosed`. -/
def onPooledClosed (p : PooledId) : HttpConnector :=
  if (s.pooled p).held then
    (setPooledStage
      { s with idle := s.idle.erase ((s.pooled p).key, p), idleDestroying := s.idleDestroying + 1 }
      p .closed).setPooled p { s.pooled p with pending := .closed }
  else
    (setPooledStage
      { s with idle := s.idle.erase ((s.pooled p).key, p), idleDestroying := s.idleDestroying + 1 }
      p .closed).scheduleDestroy p .closed

/-- `PooledChannel::OnChannelDetached`. -/
def onPooledDetached (p : PooledId) : HttpConnector :=
  if (s.pooled p).held then
    (s.setPooledStage p .detached).setPooled p { s.pooled p with pending := .detached }
  else (s.setPooledStage p .detached).scheduleDestroy p .detached

/-- The channel that `_TakeFromPool` returns. -/
def takeFromPool (key : String) : Option PooledId :=
  ((s.idle.filter fun e => e.1 = key).getLast?).map Prod.snd

/-- `_TakeFromPool` with a channel: it is taken out of the pool and held. -/
def take (r : RequestId) (p : PooledId) : HttpConnector :=
  (setPooledStage
    { s with
      idle := s.idle.erase ((s.pooled p).key, p)
      borrower := Function.update s.borrower p r } p .loose).setPooled p
    { s.pooled p with held := true }

/-! ### `HttpConnection` -/

/-- `new HttpConnection` with a given channel, for a call of `Request`. -/
def newConnection (r : RequestId) (ch : ChannelId) : HttpConnector :=
  { s with
    connection := Function.update s.connection s.nextConnection
      ⟨r, (s.request r).key, some ch, true, false, false, .success, false⟩
    stage := Function.update s.stage s.nextConnection .starting
    nextConnection := s.nextConnection + 1
    conns := insert s.nextConnection s.conns }

/-- `new TcpChannel`. -/
def newChannel (owner : ConnectionId) : HttpConnector :=
  { s with
    channel := Function.update s.channel s.nextChannel
      ⟨none, .idle, false, false, [], false, none⟩
    owner := Function.update s.owner s.nextChannel (.connection owner)
    nextChannel := s.nextChannel + 1 }

/-- A connection with a channel of its own. -/
def newFreshConnection (r : RequestId) : HttpConnector :=
  (s.newChannel s.nextConnection).newConnection r s.nextChannel

/-- `Open` of a channel has succeeded. -/
def opened (ch : ChannelId) (c : ConnectionId) : HttpConnector :=
  s.setChannel ch { s.channel ch with handler := some (.connection c), state := .opening }

/-- The first failure of a connection is kept. -/
def setFailResult (c : ConnectionId) (result : BCResult) : HttpConnector :=
  s.setConnection c
    { s.connection c with
      failResult := if (s.connection c).failResult = .success then result
        else (s.connection c).failResult }

/-- `HttpConnection::_Fail`. -/
def failConnection (c : ConnectionId) (result : BCResult) : HttpConnector :=
  (s.setFailResult c result).cancel c

/-- The response is complete when the connection is told that there is nothing more. -/
def finished (x : HttpConnection) (closeResult : BCResult) (finishes : Bool) : Bool :=
  x.messageDone ||
    (decide (x.failResult = .success) && decide (closeResult = .success) && finishes)

/-- What `_DeliverOnce` tells the handler. -/
def outcome (x : HttpConnection) (closeResult : BCResult) : Outcome :=
  if x.messageDone then .response
  else if x.failResult ≠ .success then .error x.failResult
  else if closeResult ≠ .success then .error closeResult
  else .error .unexpectedEnd

/-- A connection that has delivered. -/
def deliver (x : HttpConnection) (closeResult : BCResult) (finishes : Bool) : HttpConnection :=
  { x with delivered := true, messageDone := finished x closeResult finishes }

/-- `_DeliverOnce` on the thread of the channel `ch`, up to the call of the handler. -/
def deliverOnce (c : ConnectionId) (ch : ChannelId) (t : Thread) (closeResult : BCResult)
    (finishes : Bool) (next : Next) : HttpConnector :=
  if (s.connection c).delivered then s.setActivity c (next.activity ch)
  else if (s.connection c).handler = false then
    (s.setConnection c (deliver (s.connection c) closeResult finishes)).setActivity c
      (next.activity ch)
  else
    ((s.setConnection c (deliver (s.connection c) closeResult finishes)).setActivity c
      (.armed ch t (outcome (deliver (s.connection c) closeResult finishes) closeResult)
        next)).armLocked t (.request c)

/-- `HttpConnection::OnChannelReady`. -/
def onChannelReady (c : ConnectionId) (failure : Option BCResult) : HttpConnector :=
  match failure with
  | none => s
  | some result => s.failConnection c result

/-- `_ShouldKeepConnectionAlive`. -/
def ShouldKeepConnectionAlive (c : ConnectionId) : Prop :=
  0 < s.maxIdlePerKey ∧ (s.connection c).keepAlive = true ∧ (s.connection c).messageDone = true ∧
    (s.connection c).failResult = .success ∧ (s.connection c).delivered = false

instance (c : ConnectionId) : Decidable (s.ShouldKeepConnectionAlive c) :=
  inferInstanceAs (Decidable (_ ∧ _))

/-- `OnChannelData` when the response is complete. -/
def onMessageDone (c : ConnectionId) (ch : ChannelId) (t : Thread) : HttpConnector :=
  if s.ShouldKeepConnectionAlive c then
    (s.setInside ch (some c)).deliverOnce c ch t .success false .park
  else s.cancel c

/-- `HttpConnection::OnChannelData`; the parser is paused once the response is complete. -/
def onChannelData (c : ConnectionId) (ch : ChannelId) (t : Thread) (parsed : Parsed) :
    HttpConnector :=
  if (s.connection c).delivered then s
  else if (s.connection c).messageDone then s.onMessageDone c ch t
  else
    match parsed with
    | .more => s
    | .complete keepAlive =>
      (s.setConnection c
        { s.connection c with messageDone := true, keepAlive := keepAlive }).onMessageDone c ch t
    | .failed result => s.failConnection c result

/-- `HttpConnection::OnChannelClosed`. -/
def onConnectionClosed (c : ConnectionId) (ch : ChannelId) (t : Thread) (result : BCResult)
    (finishes : Bool) : HttpConnector :=
  (s.setInside ch (some c)).deliverOnce c ch t result finishes .detach

/-- `HttpConnection::OnChannelAdoptFailed`, up to the end of its first section. -/
def onChannelAdoptFailed (c : ConnectionId) (ch : ChannelId) : HttpConnector :=
  (((s.newChannel c).setConnection c
    { s.connection c with channel := some s.nextChannel }).setActivity c
      (.openFresh ch s.closing)).setInside ch (some c)

/-- `OnChannelAdoptFailed` goes on with its new channel. -/
def openFresh (c : ConnectionId) (ch : ChannelId) (closing : Bool) (t : Thread)
    (result : BCResult) : HttpConnector :=
  if closing then (s.setFailResult c shuttingDown).deliverOnce c ch t shuttingDown false .detach
  else if result ≠ .success then (s.setFailResult c result).deliverOnce c ch t result false .detach
  else
    match (s.connection c).channel with
    | none => s
    | some fresh =>
      (((s.opened fresh c).setActivity c .idle).setInside ch none).post (.recheck c)

/-- The test for room in the pool. -/
def HasRoom (key : String) : Prop :=
  s.closing = false ∧ s.abandoned = false ∧ 0 < s.maxIdlePerKey ∧
    s.idle.countP (fun e => e.1 = key) < s.maxIdlePerKey

instance (key : String) : Decidable (s.HasRoom key) := inferInstanceAs (Decidable (_ ∧ _))

/-- `Park` of a channel with a new `PooledChannel`. -/
def park (ch : ChannelId) (key : String) (stage : PooledStage) : HttpConnector :=
  { s with
    pooled := Function.update s.pooled s.nextPooled ⟨ch, key, false, .none⟩
    pooledStage := Function.update s.pooledStage s.nextPooled stage
    nextPooled := s.nextPooled + 1
    channel := Function.update s.channel ch
      (if (s.channel ch).state = .ready then
        { s.channel ch with handler := some (.pooled s.nextPooled), parked := true }
      else s.channel ch)
    owner := Function.update s.owner ch (.pooled s.nextPooled) }

/-- `_FinishAndReturnChannelToPool` after `_DeliverOnce`. -/
def returnToPool (c : ConnectionId) (ch : ChannelId) : HttpConnector :=
  if s.HasRoom (s.connection c).poolKey then
    (setConnection
      { s.park ch (s.connection c).poolKey .pooled with
        idle := s.idle ++ [((s.connection c).poolKey, s.nextPooled)] }
      c { s.connection c with channel := none }).setActivity c (.detach ch)
  else
    (((s.park ch (s.connection c).poolKey .loose).closeChannel ch).setConnection c
      { s.connection c with channel := none }).setActivity c (.detach ch)

/-- `_DetachAndScheduleDestroy`; the channel's thread leaves the connection. -/
def detachAndScheduleDestroy (c : ConnectionId) (ch : ChannelId) : HttpConnector :=
  ((({ s with
    conns := s.conns.erase c
    destroying := if c ∈ s.conns then insert c s.destroying else s.destroying }.setStage c
      .condemned).setActivity c .idle).setInside ch none).post (.deleteConnection c)

/-- The thread of a connection's channel goes on. -/
def resume (c : ConnectionId) (t : Thread) (result : BCResult) : HttpConnector :=
  match s.activity c with
  | .idle => s
  | .armed ch t' o next =>
    if t = t' then
      (s.setActivity c (.calling ch t' o next)).note (.callback (s.connection c).request c o)
    else s
  | .calling ch t' _ next =>
    if t = t' then
      ((s.setActivity c (next.activity ch)).disarm t' (.request c)).note (.callbackReturned c)
    else s
  | .park ch => s.returnToPool c ch
  | .detach ch => s.detachAndScheduleDestroy c ch
  | .openFresh ch closing => s.openFresh c ch closing t result

/-! ### Channels -/

/-- A channel becomes ready. -/
def onReady (ch : ChannelId) (failure : Option BCResult) : HttpConnector :=
  if (s.channel ch).inside = none ∧ (s.channel ch).state = .opening then
    match (s.channel ch).handler with
    | some (.connection c) =>
      (s.setChannel ch { s.channel ch with state := .ready }).onChannelReady c failure
    | _ => s.setChannel ch { s.channel ch with state := .ready }
  else s

/-- `TcpChannel::OnRecvDataFromSSL`. -/
def onRecvData (ch : ChannelId) (t : Thread) (parsed : Parsed) : HttpConnector :=
  if (s.channel ch).inside = none ∧
      ((s.channel ch).state = .ready ∨ (s.channel ch).state = .closing)
  then
    if (s.channel ch).parked then
      (s.setChannel ch { s.channel ch with poisoned := true }).note (.parkedData ch)
    else
      match (s.channel ch).handler with
      | some (.connection c) =>
        if (s.channel ch).state ≠ .ready then s
        else (s.note (.received ch c)).onChannelData c ch t parsed
      | _ => s
  else s

/-- The response timer. -/
def onTimer (ch : ChannelId) : HttpConnector :=
  match (s.channel ch).handler with
  | some (.connection c) =>
    if (s.channel ch).inside = none ∧
        ((s.channel ch).state = .ready ∨ (s.channel ch).state = .closing) ∧
        (s.connection c).delivered = false then
      s.failConnection c timedOut
    else s
  | _ => s

/-- `TcpChannel::_Fail`. -/
def onFail (ch : ChannelId) : HttpConnector :=
  if (s.channel ch).inside = none ∧
      ((s.channel ch).state = .opening ∨ (s.channel ch).state = .ready) then
    s.setChannel ch { s.channel ch with state := .closing }
  else s

/-- A parked channel has a connection as its handler again. -/
def adopted (ch : ChannelId) (c : ConnectionId) (rest : List ConnectionId) : HttpConnector :=
  ((s.setChannel ch
    { s.channel ch with
      adopts := rest
      parked := false
      handler := some (.connection c) }).setOwner ch (.connection c)).note (.adopted ch c)

/-- The task of `TcpChannel::Adopt`, when the channel can be used. -/
def takeOver (ch : ChannelId) (c : ConnectionId) (rest : List ConnectionId)
    (failure : Option BCResult) : HttpConnector :=
  match (s.channel ch).handler with
  | some (.pooled p) =>
    ((s.adopted ch c rest).onPooledDetached p).onChannelReady c failure
  | _ => (s.adopted ch c rest).onChannelReady c failure

/-- The task of `TcpChannel::Adopt`. After `OnChannelAdoptFailed` it calls `_Fail`. -/
def onAdopt (ch : ChannelId) (failure : Option BCResult) : HttpConnector :=
  match (s.channel ch).adopts with
  | [] => s
  | c :: rest =>
    if (s.channel ch).inside ≠ none ∨ ¬ (s.channel ch).Open then s
    else if (s.channel ch).ParkedAndUsable then s.takeOver ch c rest failure
    else
      (s.setChannel ch { s.channel ch with adopts := rest, closes := true }).onChannelAdoptFailed
        c ch

/-- A channel has closed: nothing is pending, and its handler is told. -/
def onClosed (ch : ChannelId) (t : Thread) (result : BCResult) (finishes : Bool) : HttpConnector :=
  if (s.channel ch).inside = none ∧ (s.channel ch).state = .closing ∧
      (s.channel ch).adopts = [] then
    match (s.channel ch).handler with
    | some (.connection c) =>
      (s.setChannel ch { s.channel ch with state := .closed }).onConnectionClosed c ch t result
        finishes
    | some (.pooled p) =>
      (s.setChannel ch { s.channel ch with state := .closed }).onPooledClosed p
    | none => s.setChannel ch { s.channel ch with state := .closed }
  else s

/-! ### `Request` -/

/-- `Request` is called. -/
def call (args : RequestArgs) : HttpConnector :=
  if args.precheck ≠ .success then
    returns
      { s with
        request := Function.update s.request s.nextRequest ⟨args.key, .take⟩
        nextRequest := s.nextRequest + 1 } s.nextRequest args.precheck
  else
    { s with
      request := Function.update s.request s.nextRequest ⟨args.key, .take⟩
      nextRequest := s.nextRequest + 1 }

/-- `_TakeFromPool` if the pool is enabled. -/
def proceedTake (r : RequestId) : HttpConnector :=
  if s.maxIdlePerKey = 0 then s.setPhase r (.insert none)
  else
    match s.takeFromPool (s.request r).key with
    | none => s.setPhase r (.insert none)
    | some p => (s.take r p).setPhase r (.insert (some p))

/-- The section that makes the connection. -/
def proceedInsert (r : RequestId) : Option PooledId → HttpConnector
  | none =>
    if s.closing then s.returns r shuttingDown
    else (s.newFreshConnection r).setPhase r (.start s.nextConnection none)
  | some p =>
    if s.closing then
      ((s.closeChannel (s.pooled p).channel).release p).returns r shuttingDown
    else
      (s.newConnection r (s.pooled p).channel).setPhase r (.start s.nextConnection (some p))

/-- `Start` of a connection with its own channel, and the result of `Open`. -/
def startFresh (r : RequestId) (c : ConnectionId) (result : BCResult) : HttpConnector :=
  match (s.connection c).channel with
  | none => s
  | some ch =>
    if result = .success then
      (((s.opened ch c).setStage c .serving).setPhase r (.check c)).note (.accepted r c)
    else s.setPhase r (.detach c (.giveUp result))

/-- `DisownChannel`, after `Adopt` has failed. -/
def disown (r : RequestId) (c : ConnectionId) (p : PooledId) : HttpConnector :=
  (s.setConnection c { s.connection c with channel := none }).setPhase r (.detach c (.retry p))

/-- The first test of `Adopt`. -/
def startReused (r : RequestId) (c : ConnectionId) (p : PooledId) : HttpConnector :=
  match (s.connection c).channel with
  | none => s
  | some ch =>
    if (s.channel ch).ParkedAndUsable then s.setPhase r (.acquire c p) else s.disown r c p

/-- `_AcquirePendingTask` and `PostTask` in `Adopt`. -/
def proceedAcquire (r : RequestId) (c : ConnectionId) (p : PooledId) : HttpConnector :=
  match (s.connection c).channel with
  | none => s
  | some ch =>
    if (s.channel ch).state = .closed then s.disown r c p
    else
      (((s.setChannel ch { s.channel ch with adopts := (s.channel ch).adopts ++ [c] }).setStage
        c .serving).setPhase r (.release c p)).note (.accepted r c)

/-- The thread of an armed guard, if `_DetachAndArmClosed` has armed it. -/
def armed (t : Thread) : Option Thread := if s.MustNotify then some t else none

/-- `_DetachAndArmClosed` has armed its guard, or not. -/
def armClosed (t : Thread) : HttpConnector :=
  if s.MustNotify then armLocked { s with closedNotified := true } t .closed else s

/-- `_DetachAndArmClosed`: the connection is forgotten. -/
def forget (c : ConnectionId) : HttpConnector :=
  { s with conns := s.conns.erase c, destroying := s.destroying.erase c }

/-- `_DetachAndArmClosed` in `Request`. -/
def proceedDetach (r : RequestId) (c : ConnectionId) (k : After) (t : Thread) : HttpConnector :=
  ((((s.forget c).armClosed t).setStage c .dropped).setPhase r (.dropping c k)).post
    (.drop c ((s.forget c).armed t) (.request r k))

/-- A call of `Request` goes on. -/
def proceed (r : RequestId) (t : Thread) (result : BCResult) : HttpConnector :=
  match (s.request r).phase with
  | .unborn | .dropping _ _ | .returned _ => s
  | .take => s.proceedTake r
  | .insert borrowed => s.proceedInsert r borrowed
  | .start c none => s.startFresh r c result
  | .start c (some p) => s.startReused r c p
  | .acquire c p => s.proceedAcquire r c p
  | .release c p => (s.release p).setPhase r (.check c)
  | .detach c k => s.proceedDetach r c k t
  | .closeBorrowed p => ((s.closeChannel (s.pooled p).channel).release p).setPhase r .retry
  | .retry =>
    if s.closing then s.returns r shuttingDown
    else (s.newFreshConnection r).setPhase r (.start s.nextConnection none)
  | .check c =>
    if s.closing = true ∧ c ∈ s.conns then (s.cancel c).returns r .success
    else s.returns r .success

/-! ### Posted tasks, `Close` and the destructor -/

/-- Something posted or begun is done. -/
def doWork (t : Thread) : Work → HttpConnector
  | .deleteConnection c => ((s.deleteConnection c).setStage c .deleted).post (.finishDestroy c)
  | .finishDestroy c => ((s.forget c).setStage c .gone).notifyOr t .done
  | .deleteClosed p =>
    (((s.deleteChannel (s.pooled p).channel (.pooled p)).setPooledStage p .deleted).note
      (.deletedPooled p)).post (.finishIdle p)
  | .deleteDetached p => (s.setPooledStage p .gone).note (.deletedPooled p)
  | .finishIdle p =>
    (setPooledStage { s with idleDestroying := s.idleDestroying - 1 } p .gone).notifyOr t .done
  | .recheck c => if s.closing = true ∧ c ∈ s.conns then s.cancel c else s
  | .notifyClosed k => s.notifyClosedIfDrained t k
  | .drop c none k => ((s.deleteConnection c).setStage c .discarded).goOn k
  | .drop c (some t') k =>
    ((s.deleteConnection c).setStage c .discarded).post (.onClosed t' k)
  | .onClosed t' k => (s.note .onClosed).post (.inOnClosed t' k)
  | .inOnClosed t' k => (s.disarm t' .closed).goOn k

/-- The section of `Close`. -/
def closeAll : HttpConnector :=
  note
    { s with
      closing := true
      channel := fun ch =>
        if (∃ c ∈ s.conns, (s.connection c).channel = some ch) ∨
            (∃ e ∈ s.idle, (s.pooled e.2).channel = ch) then (s.channel ch).close
        else s.channel ch } .closeCalled

/-- `Close` is called. -/
def close (k : Cont) : HttpConnector := s.closeAll.post (.notifyClosed k)

/-- The handlers of all connections in the set are cleared. -/
def clearHandlers : HttpConnector :=
  { s with
    connection := fun c =>
      if c ∈ s.conns then { s.connection c with handler := false } else s.connection c }

/-- The destructor has given up waiting. -/
def abandon (t : Thread) : HttpConnector :=
  clearHandlers { s with abandoned := true, handler := false, destructor := .abandoning t }

/-- The end of the destructor's wait. -/
def endWait (t : Thread) : HttpConnector :=
  if s.destructor = .waiting t then
    if s.AllDrained ∧ s.callbacksInFlight ≤ s.dispatchDepthOn t then
      note { s with destructor := .done t } .destroyed
    else s.abandon t
  else s

/-- The end of the destructor's second wait. -/
def endAbandon (t : Thread) : HttpConnector :=
  if s.destructor = .abandoning t ∧ s.callbacksInFlight ≤ s.dispatchDepthOn t then
    { s with destructor := .clearing t }
  else s

/-- The handler is taken out of the log sink. -/
def clearSink (t : Thread) : HttpConnector :=
  if s.destructor = .clearing t ∧ s.logging = none then
    note { s with logSink := false, destructor := .done t } .destroyed
  else s

/-- A guard is armed and its call has not begun. -/
def aboutToCall (g : Guard) : Bool :=
  match g.dispatch with
  | .request c => (s.activity c).armedOn = some g.thread
  | .closed => s.works.any fun w => w.armedOn = some g.thread

/-- The destructor is called, from anywhere but the point between a guard and its call. -/
def destroy (t : Thread) : HttpConnector :=
  if s.destructor = .none ∧ ∀ g ∈ s.guards, g.thread = t → s.aboutToCall g = false then
    close { s with destructor := .closing t } .destructor
  else s

/-- The connector object exists. -/
def Exists : Prop := ∀ t, s.destructor ≠ .done t

instance : Decidable s.Exists :=
  match h : s.destructor with
  | .done t => .isFalse fun hall => hall t h
  | .none | .closing _ | .waiting _ | .abandoning _ | .clearing _ =>
    .isTrue fun t ht => by simp [h] at ht

/-- A posted task runs on any thread, the rest of a call on the thread of that call. -/
def MayDo (t : Thread) (w : Work) : Prop :=
  w ∈ s.works ∧ (w.thread = none ∨ w.thread = some t) ∧
    (w.cont = .destructor → s.destructor.thread = some t)

instance (t : Thread) (w : Work) : Decidable (s.MayDo t w) :=
  inferInstanceAs (Decidable (_ ∧ _))

/-- `OnLog` is called. -/
def log (t : Thread) : HttpConnector :=
  if s.logSink = true ∧ s.logging = none then note { s with logging := some t } .onLog else s

/-- What a thread does. -/
def handle (t : Thread) : Event → HttpConnector
  | .call args => if s.Exists then s.call args else s
  | .proceed r result => s.proceed r t result
  | .ready ch failure => s.onReady ch failure
  | .data ch parsed => s.onRecvData ch t parsed
  | .timer ch => s.onTimer ch
  | .fails ch => s.onFail ch
  | .adopt ch failure => s.onAdopt ch failure
  | .closed ch result finishes => s.onClosed ch t result finishes
  | .resume c result => s.resume c t result
  | .work w => if s.MayDo t w then doWork { s with works := s.works.erase w } t w else s
  | .close => if s.Exists then s.close .done else s
  | .destroy => s.destroy t
  | .endWait => s.endWait t
  | .endAbandon => s.endAbandon t
  | .clearSink => s.clearSink t
  | .resolve ch =>
    if (s.channel ch).state = .opening then { s with dnsWorkers := s.dnsWorkers + 1 } else s
  | .resolved => { s with dnsWorkers := s.dnsWorkers - 1 }
  | .logChannel ch => if (s.channel ch).Open then s.log t else s
  | .logWorker => if 0 < s.dnsWorkers then s.log t else s
  | .logConnection c => if s.activity c ≠ .idle then s.log t else s
  | .logRequest r =>
    match (s.request r).phase with
    | .unborn | .returned _ => s
    | _ => s.log t
  | .logged => if s.logging = some t then { s with logging := none } else s

/-- The steps of the destructor. -/
def ofDestructor : Event → Bool
  | .endWait | .endAbandon | .clearSink => true
  | .work w => w.cont = .destructor
  | _ => false

/-- A thread does something; the thread in the destructor does nothing else. -/
def step (e : Thread × Event) : HttpConnector :=
  if s.destructor.thread = some e.1 ∧ ofDestructor e.2 = false then s else s.handle e.1 e.2

end HttpConnector

end Http
