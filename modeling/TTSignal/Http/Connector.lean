import TTSignal.Tcp.Channel
import Mathlib.Data.Finset.Insert
import Mathlib.Logic.Function.Basic

/-!
# The state of an HTTP connector

An `HttpConnector` makes an `HttpConnection` for each request. The connection owns a
`TcpChannel`, tells the request's handler its outcome once, and either closes the channel or
hands it to a `PooledChannel`, from which a later request may take it over. What the
connections share lies behind one lock. The model has one table for each kind of object,
indexed by numbers that are never used again, and the shared fields; the things that
threads and posted tasks still have to do are part of the state.

What the program keeps nowhere is kept apart: how far each object has come, which call has
taken a pooled channel, and which object will delete a channel. No operation reads it.
-/

namespace Http

open Tcp (BCResult)

/-- An `HttpConnection`. -/
abbrev ConnectionId := ℕ

/-- A `PooledChannel`. -/
abbrev PooledId := ℕ

/-- A `TcpChannel`. -/
abbrev ChannelId := ℕ

/-- A call of `HttpConnector::Request`. -/
abbrev RequestId := ℕ

/-- A thread. -/
abbrev Thread := ℕ

/-- `BC_R_SHUTTINGDOWN`. -/
def shuttingDown : BCResult := .other 22

/-- `BC_R_NOTIMPLEMENTED`. -/
def notImplemented : BCResult := .other 27

/-- `BC_R_TIMEDOUT`. -/
def timedOut : BCResult := .other 2

/-- What a request's handler is told. -/
inductive Outcome where
  /-- `OnHttpResponse`. -/
  | response
  /-- `OnHttpError`. -/
  | error (result : BCResult)
  deriving DecidableEq

/-- What an `HttpConnection` does after `_DeliverOnce`. -/
inductive Next where
  /-- The rest of `_FinishAndReturnChannelToPool`. -/
  | park
  /-- `_DetachAndScheduleDestroy`. -/
  | detach
  deriving DecidableEq

/-- What the thread of a channel is doing in the code of an `HttpConnection`, between two
sections that other threads can tell apart. -/
inductive Activity where
  /-- Nothing. -/
  | idle
  /-- `_DeliverOnce` has armed its guard and is about to call the handler. -/
  | armed (ch : ChannelId) (t : Thread) (outcome : Outcome) (next : Next)
  /-- The handler is running. -/
  | calling (ch : ChannelId) (t : Thread) (outcome : Outcome) (next : Next)
  /-- `_FinishAndReturnChannelToPool` has delivered. -/
  | park (ch : ChannelId)
  /-- `_DetachAndScheduleDestroy` comes next. -/
  | detach (ch : ChannelId)
  /-- `OnChannelAdoptFailed` has stored a new channel, and whether it saw the connector
  closing. -/
  | openFresh (ch : ChannelId) (closing : Bool)
  deriving DecidableEq

/-- The channel whose thread is running. -/
def Activity.on : Activity → Option ChannelId
  | .idle => none
  | .armed ch _ _ _ | .calling ch _ _ _ | .park ch | .detach ch | .openFresh ch _ => some ch

/-- The thread that is about to call the handler. -/
def Activity.armedOn : Activity → Option Thread
  | .armed _ t _ _ => some t
  | _ => none

/-- What follows `_DeliverOnce`. -/
def Next.activity (ch : ChannelId) : Next → Activity
  | .park => .park ch
  | .detach => .detach ch

/-- How far an `HttpConnection` has come. -/
inductive ConnectionStage where
  /-- Not made yet. -/
  | unborn
  /-- Made by a request that has not been accepted. -/
  | starting
  /-- Its request has been accepted. -/
  | serving
  /-- Its deletion is posted. -/
  | condemned
  /-- Deleted by the posted task. -/
  | deleted
  /-- Forgotten by the connector. -/
  | gone
  /-- Given up by its request. -/
  | dropped
  /-- Deleted by its request. -/
  | discarded
  deriving DecidableEq

/-- `HttpConnection`. -/
structure HttpConnection where
  /-- The call that made it. -/
  request : RequestId
  /-- `pool_key_`. -/
  poolKey : String
  /-- `channel_`. -/
  channel : Option ChannelId
  /-- `handler_` is set. -/
  handler : Bool
  /-- `message_done_`. -/
  messageDone : Bool
  /-- `keep_alive_`. -/
  keepAlive : Bool
  /-- `fail_result_`. -/
  failResult : BCResult
  /-- `delivered_`. -/
  delivered : Bool

/-- `PooledChannel::Terminal`. -/
inductive Terminal where
  | none
  | closed
  | detached
  deriving DecidableEq

/-- How far a `PooledChannel` has come. -/
inductive PooledStage where
  /-- Not made yet. -/
  | unborn
  /-- In the pool. -/
  | pooled
  /-- Watching its channel outside the pool. -/
  | loose
  /-- Its channel is closed. -/
  | closed
  /-- Its channel has been taken over. -/
  | detached
  /-- Deleted with its channel. -/
  | deleted
  /-- Forgotten. -/
  | gone
  deriving DecidableEq

/-- `PooledChannel`. -/
structure PooledChannel where
  /-- `channel_`. -/
  channel : ChannelId
  /-- `key_`. -/
  key : String
  /-- `held_`. -/
  held : Bool
  /-- `pending_`. -/
  pending : Terminal

/-- An implementation of `ITcpChannelHandler`. -/
inductive ChannelHandler where
  | connection (c : ConnectionId)
  | pooled (p : PooledId)
  deriving DecidableEq

/-- The state of a `TcpChannel` as its users can tell it. -/
inductive ChannelState where
  /-- Not opened. -/
  | idle
  /-- Opened and not ready yet. -/
  | opening
  /-- `TCPCH_READY`. -/
  | ready
  /-- `_Fail` has been called. -/
  | closing
  /-- `OnChannelClosed` has been called, or is being called. -/
  | closed
  deriving DecidableEq

/-- `TcpChannel`, as its users see it. -/
structure Channel where
  /-- `handler_`. -/
  handler : Option ChannelHandler
  /-- `state_`. -/
  state : ChannelState
  /-- `parked_`. -/
  parked : Bool
  /-- `poisoned_`. -/
  poisoned : Bool
  /-- The posted tasks of `Adopt`, with the connections that wait for them. -/
  adopts : List ConnectionId
  /-- A call of `_Fail` is posted, or still to be made by the running task. -/
  closes : Bool
  /-- The connection whose code its thread is running. -/
  inside : Option ConnectionId

/-- `TcpChannel::IsParkedAndUsable`. -/
def Channel.ParkedAndUsable (ch : Channel) : Prop :=
  ch.parked = true ∧ ch.poisoned = false ∧ ch.state = .ready

instance (ch : Channel) : Decidable ch.ParkedAndUsable := inferInstanceAs (Decidable (_ ∧ _))

/-- The channel has been opened and is not closed. -/
def Channel.Open (ch : Channel) : Prop :=
  ch.state = .opening ∨ ch.state = .ready ∨ ch.state = .closing

instance (ch : Channel) : Decidable ch.Open := inferInstanceAs (Decidable (_ ∨ _))

/-- `TcpChannel::Close`: the task that calls `_Fail` is posted. -/
def Channel.close (ch : Channel) : Channel := if ch.Open then { ch with closes := true } else ch

/-- What `HttpConnector::Request` does once it has given up a connection. -/
inductive After where
  /-- It tries again without the borrowed channel. -/
  | retry (p : PooledId)
  /-- It returns. -/
  | giveUp (result : BCResult)
  deriving DecidableEq

/-- The next section of a call of `HttpConnector::Request`. -/
inductive RequestPhase where
  /-- It has not been called. -/
  | unborn
  /-- `_TakeFromPool`. -/
  | take
  /-- The connection is made. -/
  | insert (borrowed : Option PooledId)
  /-- `Start`. -/
  | start (c : ConnectionId) (borrowed : Option PooledId)
  /-- `_AcquirePendingTask` in `Adopt`. -/
  | acquire (c : ConnectionId) (p : PooledId)
  /-- `Release` of the borrowed channel that is being adopted. -/
  | release (c : ConnectionId) (p : PooledId)
  /-- `_DetachAndArmClosed`. -/
  | detach (c : ConnectionId) (k : After)
  /-- Waiting for the deletion of the connection and `OnClosed`. -/
  | dropping (c : ConnectionId) (k : After)
  /-- `Close` and `Release` of the borrowed channel. -/
  | closeBorrowed (p : PooledId)
  /-- The connection is made again. -/
  | retry
  /-- The last look at `closing`. -/
  | check (c : ConnectionId)
  /-- It has returned. -/
  | returned (result : BCResult)
  deriving DecidableEq

/-- A call of `HttpConnector::Request`. -/
structure RequestCall where
  /-- The `_PoolKey` of its configuration. -/
  key : String
  /-- What it does next. -/
  phase : RequestPhase

/-- What follows a possible call of `OnClosed`. -/
inductive Cont where
  /-- Nothing: the posted task, or the call of `Close`, is over. -/
  | done
  /-- A call of `Request` goes on. -/
  | request (r : RequestId) (k : After)
  /-- The destructor goes on. -/
  | destructor
  deriving DecidableEq

/-- What is posted to the runtime, and what threads have still to do on behalf of the
connector. -/
inductive Work where
  /-- The task of `_DetachAndScheduleDestroy`. -/
  | deleteConnection (c : ConnectionId)
  /-- `_FinishDestroyAndMaybeNotify`. -/
  | finishDestroy (c : ConnectionId)
  /-- The task of `_ScheduleDestroy` for a closed channel. -/
  | deleteClosed (p : PooledId)
  /-- The task of `_ScheduleDestroy` for a channel that has been taken over. -/
  | deleteDetached (p : PooledId)
  /-- `_FinishIdleDestroyAndMaybeNotify`. -/
  | finishIdle (p : PooledId)
  /-- The last look at `closing` of `OnChannelAdoptFailed`. -/
  | recheck (c : ConnectionId)
  /-- `_NotifyClosedIfDrained`. -/
  | notifyClosed (k : Cont)
  /-- `Request` deletes a connection, with the thread of an armed guard. -/
  | drop (c : ConnectionId) (armed : Option Thread) (k : Cont)
  /-- A guard is armed and `OnClosed` is about to be called. -/
  | onClosed (t : Thread) (k : Cont)
  /-- `OnClosed` is running. -/
  | inOnClosed (t : Thread) (k : Cont)
  deriving DecidableEq

/-- What follows it. -/
def Work.cont : Work → Cont
  | .notifyClosed k | .drop _ _ k | .onClosed _ k | .inOnClosed _ k => k
  | _ => .done

/-- The thread that is about to call `OnClosed`. -/
def Work.armedOn : Work → Option Thread
  | .drop _ armed _ => armed
  | .onClosed t _ => some t
  | _ => none

/-- The thread that is in `OnClosed`, or about to call it. -/
def Work.thread : Work → Option Thread
  | .inOnClosed t _ => some t
  | w => w.armedOn

/-- The call that a `DispatchGuard` protects. -/
inductive Dispatch where
  /-- Of the handler of a connection's request. -/
  | request (c : ConnectionId)
  /-- `OnClosed`. -/
  | closed
  deriving DecidableEq

/-- An armed `DispatchGuard`. -/
structure Guard where
  /-- The thread it is armed on. -/
  thread : Thread
  /-- What it protects. -/
  dispatch : Dispatch
  deriving DecidableEq

/-- How far `~HttpConnector` has come, with its thread. -/
inductive Destructor where
  /-- It has not been called. -/
  | none
  /-- In `Close`. -/
  | closing (t : Thread)
  /-- Waiting for the requests. -/
  | waiting (t : Thread)
  /-- Given up; waiting for the callbacks of other threads. -/
  | abandoning (t : Thread)
  /-- About to take the handler out of the log sink. -/
  | clearing (t : Thread)
  /-- It has finished waiting. -/
  | done (t : Thread)
  deriving DecidableEq

/-- The thread that is in the destructor and does nothing else. -/
def Destructor.thread : Destructor → Option Thread
  | .none | .done _ => Option.none
  | .closing t | .waiting t | .abandoning t | .clearing t => some t

/-- What happens, as far as the claims about a connector speak of it. -/
inductive Action where
  /-- `Start` has succeeded. -/
  | accepted (r : RequestId) (c : ConnectionId)
  /-- `Request` returns. -/
  | returned (r : RequestId) (result : BCResult)
  /-- `OnHttpResponse` or `OnHttpError` is called. -/
  | callback (r : RequestId) (c : ConnectionId) (outcome : Outcome)
  /-- The handler's call returns. -/
  | callbackReturned (c : ConnectionId)
  /-- `Close` is called. -/
  | closeCalled
  /-- `OnClosed` is called. -/
  | onClosed
  /-- `OnLog` is called. -/
  | onLog
  /-- A connection is deleted. -/
  | deletedConnection (c : ConnectionId)
  /-- A `PooledChannel` is deleted. -/
  | deletedPooled (p : PooledId)
  /-- A `TcpChannel` is deleted by its owner. -/
  | deletedChannel (ch : ChannelId) (owner : ChannelHandler)
  /-- Application data arrives while the channel is parked. -/
  | parkedData (ch : ChannelId)
  /-- A connection is given application data. -/
  | received (ch : ChannelId) (c : ConnectionId)
  /-- A connection takes over a parked channel. -/
  | adopted (ch : ChannelId) (c : ConnectionId)
  /-- The destructor has finished waiting. -/
  | destroyed
  deriving DecidableEq

/-- `HttpConnectorState`, which the connector shares with its connections. -/
structure HttpConnectorState where
  /-- `conns`. -/
  conns : Finset ConnectionId
  /-- `destroying`. -/
  destroying : Finset ConnectionId
  /-- `idle`: all vectors in one list, in the order in which they were filled. -/
  idle : List (String × PooledId)
  /-- `idle_destroying`. -/
  idleDestroying : ℕ
  /-- `max_idle_per_key`. -/
  maxIdlePerKey : ℕ
  /-- `handler` is set. -/
  handler : Bool
  /-- `closing`. -/
  closing : Bool
  /-- `closed_notified`. -/
  closedNotified : Bool
  /-- `abandoned`. -/
  abandoned : Bool
  /-- `callbacks_in_flight`. -/
  callbacksInFlight : ℕ
  /-- `log_sink->handler` is set. -/
  logSink : Bool

/-- What the program keeps nowhere. -/
structure Bookkeeping where
  /-- How far each connection has come. -/
  stage : ConnectionId → ConnectionStage
  /-- How far each pooled channel has come. -/
  pooledStage : PooledId → PooledStage
  /-- The call of `Request` that has taken a pooled channel. -/
  borrower : PooledId → RequestId
  /-- The object that will delete a channel. -/
  owner : ChannelId → ChannelHandler
  /-- A channel has been deleted. -/
  deleted : ChannelId → Bool

/-- A connector with everything that it has made. -/
structure HttpConnector extends HttpConnectorState, Bookkeeping where
  /-- The connections. -/
  connection : ConnectionId → HttpConnection
  /-- The pooled channels. -/
  pooled : PooledId → PooledChannel
  /-- The channels. -/
  channel : ChannelId → Channel
  /-- The calls of `Request`. -/
  request : RequestId → RequestCall
  /-- What a channel's thread is doing in each connection. -/
  activity : ConnectionId → Activity
  /-- The next connection. -/
  nextConnection : ℕ
  /-- The next pooled channel. -/
  nextPooled : ℕ
  /-- The next channel. -/
  nextChannel : ℕ
  /-- The next call of `Request`. -/
  nextRequest : ℕ
  /-- What is still to be done. -/
  works : List Work
  /-- The armed guards. -/
  guards : List Guard
  /-- The destructor. -/
  destructor : Destructor
  /-- The thread that is in `OnLog`; it holds the lock of the log sink. -/
  logging : Option Thread
  /-- The workers that resolve names for its channels. -/
  dnsWorkers : ℕ
  /-- What has happened. -/
  trace : List Action

/-- `_AllDrainedLocked`. -/
def HttpConnectorState.AllDrained (s : HttpConnectorState) : Prop :=
  s.conns = ∅ ∧ s.destroying = ∅ ∧ s.idle = [] ∧ s.idleDestroying = 0

instance (s : HttpConnectorState) : Decidable s.AllDrained :=
  inferInstanceAs (Decidable (_ ∧ _))

/-- The test in front of `OnClosed`. -/
def HttpConnectorState.MustNotify (s : HttpConnectorState) : Prop :=
  s.abandoned = false ∧ s.closing = true ∧ s.closedNotified = false ∧ s.AllDrained ∧
    s.handler = true

instance (s : HttpConnectorState) : Decidable s.MustNotify := inferInstanceAs (Decidable (_ ∧ _))

/-- A connector as `Create` leaves it. -/
def HttpConnector.create (maxIdlePerKey : ℕ) (handler logSink : Bool) : HttpConnector where
  conns := ∅
  destroying := ∅
  idle := []
  idleDestroying := 0
  maxIdlePerKey := maxIdlePerKey
  handler := handler
  closing := false
  closedNotified := false
  abandoned := false
  callbacksInFlight := 0
  logSink := logSink
  stage := fun _ => .unborn
  pooledStage := fun _ => .unborn
  borrower := fun _ => 0
  owner := fun _ => .connection 0
  deleted := fun _ => false
  connection := fun _ => ⟨0, "", none, false, false, false, .success, false⟩
  pooled := fun _ => ⟨0, "", false, .none⟩
  channel := fun _ => ⟨none, .idle, false, false, [], false, none⟩
  request := fun _ => ⟨"", .unborn⟩
  activity := fun _ => .idle
  nextConnection := 0
  nextPooled := 0
  nextChannel := 0
  nextRequest := 0
  works := []
  guards := []
  destructor := .none
  logging := none
  dnsWorkers := 0
  trace := []

end Http
