import Mathlib.Logic.Function.Basic
import TTSignal.Runs
import TTSignal.Ws.Connection

/-!
# The connector and its connections

`WSConnector` registers the connections it creates under ids until they are torn down. Its
state is shared and protected by a lock; a step of the model is what a thread does between
taking the lock and leaving it, or the start or the return of a callback. `Close` removes the
connections whose channel has never been opened and closes the other channels, a closed
channel removes its connection by a task of the runtime, and whoever finds the connector
closed and without connections announces `OnClosed`. The counters are natural numbers.

The application may keep every connection it has created, so the model keeps them all. It
calls no method of the connector once the destructor has begun.
-/

namespace WS

/-- Whose callback is in progress. -/
inductive Party where
  | connector
  | connection (id : ℕ)
  deriving DecidableEq

/-- What can be observed. -/
inductive Happening where
  /-- A connection is registered. -/
  | created (id : ℕ)
  /-- A connection is removed from `conns`. -/
  | removed (id : ℕ)
  /-- `OnClosed` of the connector starts. -/
  | closed
  /-- A callback of a connection starts. -/
  | callback (id : ℕ) (callback : Callback)
  /-- The destructor has returned. -/
  | destroyed
  deriving DecidableEq

/-- How far `OnClosed` of the connector has come. -/
inductive ClosedCall where
  | idle
  /-- The lock has been left with the handler in hand. -/
  | armed
  | running
  deriving DecidableEq

/-- How far the destructor has come. -/
inductive Destroying where
  | no
  /-- The lock of `Close` has been left. -/
  | closed
  /-- It waits for the connections to be torn down. -/
  | waiting
  /-- It has given up and waits for the callbacks in flight. -/
  | abandoning
  | gone
  deriving DecidableEq

/-- `WSConnector` with its `WSConnectorState`. -/
structure WSConnector (L P : Type) where
  /-- `created_`. -/
  created : Bool := false
  /-- `handler` is not null. -/
  handler : Bool := false
  /-- `closing`. -/
  closing : Bool := false
  /-- `closed_notified`. -/
  closedNotified : Bool := false
  /-- `abandoned`. -/
  abandoned : Bool := false
  /-- The keys of `conns`. -/
  conns : List ℕ := []
  /-- The connections that have been created. -/
  objects : ℕ → Option (WSConnection L P) := fun _ => none
  /-- `next_conn_id_`. -/
  nextConnId : ℕ := 0
  /-- `total_allocated`. -/
  totalAllocated : ℕ := 0
  /-- `total_freed`. -/
  totalFreed : ℕ := 0
  /-- The callbacks that `callbacks_in_flight` counts. -/
  inFlight : List Party := []
  /-- The tasks posted by `OnChannelClosed`. -/
  tasks : List ℕ := []
  /-- The threads in `Close` before `_NotifyClosedIfDrained`. -/
  notifying : ℕ := 0
  /-- The callback of the connector in progress. -/
  onClosed : ClosedCall := .idle
  /-- The destructor. -/
  destroying : Destroying := .no
  /-- The callbacks that the destructor is called from. -/
  frames : List Party := []
  /-- What has happened, in order. -/
  trace : List Happening := []

/-- What the threads do. -/
inductive Move (L P : Type) where
  /-- `Create`. -/
  | create (handler : Bool)
  /-- `CreateConnection`; the parsers of the connection are in their first state. -/
  | createConnection (config : Config) (http : L) (parser : P) (handler : Bool)
  /-- Something happens to a connection. -/
  | connection (id : ℕ) (i : Input)
  /-- The locked part of `Close`. -/
  | close
  /-- `_NotifyClosedIfDrained` at the end of `Close`. -/
  | notify
  /-- The runtime carries out a task of `OnChannelClosed`. -/
  | teardown (id : ℕ)
  /-- `OnClosed` of the connector starts. -/
  | closedStart
  /-- `OnClosed` of the connector returns. -/
  | closedReturned
  /-- The destructor is called, in the given callbacks, and leaves the lock of `Close`. -/
  | destroy (frames : List Party)
  /-- The destructor notifies. -/
  | destroyNotify
  /-- The destructor finds everything torn down. -/
  | drained
  /-- The destructor gives up. -/
  | timeout
  /-- The destructor finds no other callback in flight after giving up. -/
  | leave

namespace WSConnector

variable {L P : Type} (E : Parsers L P) (s : WSConnector L P)

/-- A connection is replaced. -/
def set (id : ℕ) (c : WSConnection L P) : WSConnector L P :=
  { s with objects := Function.update s.objects id (some c) }

/-- A connection is registered under the next id. -/
def register (c : WSConnection L P) : WSConnector L P :=
  { s with
    objects := Function.update s.objects (s.nextConnId + 1) (some c)
    nextConnId := s.nextConnId + 1
    conns := s.conns ++ [s.nextConnId + 1]
    totalAllocated := s.totalAllocated + 1
    trace := s.trace ++ [.created (s.nextConnId + 1)] }

/-- `CreateConnection`. -/
def createConnection (config : Config) (http : L) (parser : P) (handler : Bool) :
    WSConnector L P :=
  if ¬ s.created ∨ s.closing then s
  else s.register (WSConnection.create config http parser handler)

/-- `Close` removes the connection. -/
def cancels (id : ℕ) : Bool :=
  match s.objects id with
  | some c => c.cancelLocked.1
  | none => false

/-- The locked part of `Close`. -/
def closeLocked : WSConnector L P :=
  { s with
    closing := true
    conns := s.conns.filter fun id => ! s.cancels id
    totalFreed := s.totalFreed + (s.conns.filter s.cancels).length
    objects := fun id =>
      if id ∈ s.conns then (s.objects id).map fun c => c.cancelLocked.2 else s.objects id
    trace := s.trace ++ (s.conns.filter s.cancels).map .removed }

/-- `OnClosed` is about to be called. -/
def armClosed : WSConnector L P :=
  { s with
    closedNotified := true
    onClosed := .armed
    inFlight := s.inFlight ++ [.connector] }

/-- `_NotifyClosedIfDrained`. -/
def notifyClosedIfDrained : WSConnector L P :=
  if s.abandoned ∨ ¬ s.closing ∨ s.closedNotified then s
  else if s.conns ≠ [] then s
  else if ¬ s.handler then { s with closedNotified := true }
  else s.armClosed

/-- The first part of `_RemoveConnAndMaybeNotify`. -/
def removeConn (id : ℕ) : WSConnector L P :=
  if id ∈ s.conns then
    { s with
      conns := s.conns.erase id
      totalFreed := s.totalFreed + 1
      trace := s.trace ++ [.removed id] }
  else s

/-- The second part of `_RemoveConnAndMaybeNotify`. -/
def maybeNotify : WSConnector L P :=
  if ¬ s.abandoned ∧ s.closing ∧ ¬ s.closedNotified ∧ s.conns = [] ∧ s.handler then s.armClosed
  else s

/-- `_RemoveConnAndMaybeNotify`. -/
def removeConnAndMaybeNotify (id : ℕ) : WSConnector L P := (s.removeConn id).maybeNotify

/-- A connection carries out an effect: a callback that is armed is counted, and the channel
that is released posts a task. -/
def performed (id : ℕ) (c d : WSConnection L P) : WSConnector L P :=
  { s.set id d with
    inFlight :=
      if c.dispatch = .idle ∧ d.dispatch ≠ .idle then s.inFlight ++ [.connection id]
      else s.inFlight
    tasks := if c.session.channel ∧ ¬ d.session.channel then s.tasks ++ [id] else s.tasks }

/-- Something happens to a connection. The end of `Connect` looks at `closing`; a callback
that the destructor is called from does not return before it; the handler is taken away by
the destructor only. -/
def connectionStep (id : ℕ) (c : WSConnection L P) : Input → WSConnector L P
  | .clearHandler => s
  | .checkClosing _ => s.set id (c.step E (.checkClosing s.closing))
  | .perform => s.performed id c (c.step E .perform)
  | .start =>
    match c.dispatch with
    | .armed callback =>
      { s.set id (c.step E .start) with trace := s.trace ++ [.callback id callback] }
    | _ => s
  | .callbackReturned =>
    if .connection id ∈ s.frames ∨ c.dispatch ≠ .running then s
    else
      { s.set id (c.step E .callbackReturned) with
        inFlight := s.inFlight.erase (.connection id) }
  | i => s.set id (c.step E i)

/-- A callback has started and has not returned. -/
def isRunning : Party → Bool
  | .connector => s.onClosed = .running
  | .connection id =>
    match s.objects id with
    | some c => c.dispatch = .running
    | none => false

/-- What the destructor waits for. -/
def isDrained : Bool := s.conns = [] && s.inFlight.length ≤ s.frames.length

/-- The destructor gives up: no handler is called any more. -/
def abandon : WSConnector L P :=
  { s with
    destroying := .abandoning
    abandoned := true
    handler := false
    objects := fun id =>
      if id ∈ s.conns then (s.objects id).map WSConnection.clearHandlerLocked
      else s.objects id }

/-- The destructor returns. -/
def gone : WSConnector L P :=
  { s with destroying := .gone, frames := [], trace := s.trace ++ [.destroyed] }

/-- What a thread does, if it can do it now. -/
def step : Move L P → WSConnector L P
  | .create handler =>
    if s.created ∨ s.destroying ≠ .no then s else { s with created := true, handler := handler }
  | .createConnection config http parser handler =>
    if s.destroying ≠ .no then s else s.createConnection config http parser handler
  | .connection id i =>
    match s.objects id with
    | some c => s.connectionStep E id c i
    | none => s
  | .close =>
    if s.destroying ≠ .no then s else { s.closeLocked with notifying := s.notifying + 1 }
  | .notify =>
    if s.notifying = 0 then s
    else { s.notifyClosedIfDrained with notifying := s.notifying - 1 }
  | .teardown id =>
    if id ∈ s.tasks then
      { s with tasks := s.tasks.erase id }.removeConnAndMaybeNotify id
    else s
  | .closedStart =>
    if s.onClosed = .armed then { s with onClosed := .running, trace := s.trace ++ [.closed] }
    else s
  | .closedReturned =>
    if s.onClosed = .running ∧ .connector ∉ s.frames then
      { s with onClosed := .idle, inFlight := s.inFlight.erase .connector }
    else s
  | .destroy frames =>
    if s.destroying = .no ∧ frames.Nodup ∧ ∀ p ∈ frames, s.isRunning p then
      { s.closeLocked with destroying := .closed, frames := frames }
    else s
  | .destroyNotify =>
    if s.destroying = .closed then { s.notifyClosedIfDrained with destroying := .waiting } else s
  | .drained => if s.destroying = .waiting ∧ s.isDrained then s.gone else s
  | .timeout => if s.destroying = .waiting ∧ ¬ s.isDrained then s.abandon else s
  | .leave =>
    if s.destroying = .abandoning ∧ s.inFlight.length ≤ s.frames.length then s.gone else s

/-- The connector after its constructor. -/
def initial : WSConnector L P := {}

end WSConnector

end WS
