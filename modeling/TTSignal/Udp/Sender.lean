import TTSignal.Runs
import Mathlib.Order.Basic
import Mathlib.Tactic.Common

/-!
# A sender of datagrams

`UDPSender` has a state it is in and a lower one it is to come down to. Each call that finds
the two apart goes down the ladder in `_ExitCheck` as far as the pending operations let it:
the socket is given up on the way, and at the foot the sender is restarted or shut down. Calls
that find no lower state asked for go on and use the socket.

The tasks of its event queue run one after the other; `Send`, `SendMMsg` and `Connect` may
come from every thread while a callback is out. What the system answers to the
initialization of a socket is a parameter. Binding to an interface only changes the
options of the socket and is left out.
-/

namespace Udp

/-- `BCRESULT`. -/
abbrev BCRESULT := ℕ

/-- `BC_R_SUCCESS`. -/
def bcrSuccess : BCRESULT := 0

/-- `BC_R_NOMEMORY`. -/
def bcrNoMemory : BCRESULT := 1

/-- `BC_R_TIMEDOUT`. -/
def bcrTimedOut : BCRESULT := 2

/-- `BC_R_ADDRNOTAVAIL`. -/
def bcrAddrNotAvail : BCRESULT := 4

/-- `BC_R_NETUNREACH`. -/
def bcrNetUnreach : BCRESULT := 8

/-- `BC_R_HOSTUNREACH`. -/
def bcrHostUnreach : BCRESULT := 9

/-- `BC_R_NETDOWN`. -/
def bcrNetDown : BCRESULT := 10

/-- `BC_R_HOSTDOWN`. -/
def bcrHostDown : BCRESULT := 11

/-- `BC_R_CANCELED`. -/
def bcrCanceled : BCRESULT := 20

/-- `BC_R_UNEXPECTED`. -/
def bcrUnexpected : BCRESULT := 34

/-- `BC_R_INPROGRESS`. -/
def bcrInProgress : BCRESULT := 53

/-- The results after which the socket is kept. -/
def IsTransient (result : BCRESULT) : Prop :=
  result = bcrTimedOut ∨ result = bcrAddrNotAvail ∨ result = bcrNetUnreach ∨
    result = bcrHostUnreach ∨ result = bcrNetDown ∨ result = bcrHostDown ∨ result = bcrCanceled

instance (result : BCRESULT) : Decidable (IsTransient result) :=
  inferInstanceAs (Decidable (_ ∨ _))

/-- `SNDR_STATE_FREED`. -/
def sndrStateFreed : ℕ := 0

/-- `SNDR_STATE_INACTIVE`. -/
def sndrStateInactive : ℕ := 1

/-- `SNDR_STATE_READY`. -/
def sndrStateReady : ℕ := 3

/-- `SNDR_STATE_READING`. -/
def sndrStateReading : ℕ := 4

/-- `SNDR_STATE_MAX`. -/
def sndrStateMax : ℕ := 9

/-- `BC_SOCKET_MAXSCATTERGATHER`. -/
def bcSocketMaxScatterGather : ℕ := 1024

/-- `BCSocket`, as far as it has come. -/
structure Socket where
  /-- `Create` has succeeded. -/
  created : Bool
  /-- `Bind` has succeeded. -/
  bound : Bool
  deriving DecidableEq

/-- What the system answers when a socket is initialized and checked. -/
structure Setup where
  /-- There is memory for it. -/
  allocated : Bool
  /-- The result of `Create`. -/
  create : BCRESULT
  /-- The configured host, if the socket is bound to it, is an address. -/
  hostParses : Bool
  /-- The result of `Bind`. -/
  bind : BCRESULT
  /-- The result of `ScheduleTask` for the availability check. -/
  schedule : BCRESULT

/-- What the system answers in a run. -/
structure System where
  /-- To the initialization of a socket, by the number of restarts before. -/
  setup : ℕ → Setup
  /-- To a receive, by the number of receives before. -/
  recv : ℕ → BCRESULT

/-- What uses the socket behind its test of `_ExitCheck`. -/
inductive User where
  | send
  | sendMMsg
  | connect
  | recvChunk
  deriving DecidableEq

/-- The callbacks of `IUDPSenderHandler`. -/
inductive Callback where
  | onSendData
  | onRecvData
  | onCheckAvailable
  | onRestart (result : BCRESULT)
  | onUdpClosed
  deriving DecidableEq

/-- What happens in a run. -/
inductive Note where
  /-- A test of `_ExitCheck` is passed with this value of `m_pSocket`. -/
  | passes (user : User) (socket : Option Socket)
  /-- The handler is called. -/
  | calls (callback : Callback)
  deriving DecidableEq

/-- The callback of a note. -/
def Note.callback? : Note → Option Callback
  | .passes _ _ => none
  | .calls callback => some callback

/-- `UDPSender`. -/
structure Sender where
  /-- `m_pSocket`. -/
  socket : Option Socket
  /-- `m_nPendingRecv`. -/
  pendingRecv : ℕ
  /-- `m_nPendingSend`. -/
  pendingSend : ℕ
  /-- `m_eState`. -/
  state : ℕ
  /-- `m_nNewState`. -/
  newState : ℕ
  /-- `m_nCloseStatus`. -/
  closeStatus : BCRESULT
  /-- `m_nPendingRestart`. -/
  pendingRestart : ℕ
  /-- `m_bCheckAvailable`. -/
  checkAvailable : Bool
  /-- `m_nCheckAvailableTimerId` is set. -/
  checkTimer : Bool
  /-- `m_nRecvDataCount`. -/
  recvDataCount : ℕ
  /-- `m_nCtrls`. -/
  ctrls : ℕ
  /-- `BCEventQueue::Detach` has been called. -/
  detached : Bool
  /-- `OnEventProcShutdown` has run. -/
  closed : Bool
  /-- A task has left the lock and calls the handler. -/
  outside : Bool
  /-- How often the socket has been initialized anew. -/
  restarts : ℕ
  /-- How many receives have been started. -/
  receives : ℕ
  /-- What has happened. -/
  trace : List Note
  deriving DecidableEq

namespace Sender

variable (sys : System) (s : Sender)

/-- Note what happens. -/
def note (n : Note) : Sender := { s with trace := s.trace ++ [n] }

/-- `_set_state`. -/
def setState (newState : ℕ) (status : BCRESULT) : Sender :=
  { s with newState := newState, closeStatus := status }

/-- The socket behind `_InitSocket`, and its result. -/
def initSocket (a : Setup) : BCRESULT × Sender :=
  if ¬ a.allocated then (bcrNoMemory, { s with socket := none })
  else if a.create ≠ bcrSuccess then (a.create, { s with socket := some ⟨false, false⟩ })
  else if ¬ a.hostParses then (bcrUnexpected, { s with socket := some ⟨true, false⟩ })
  else if a.bind ≠ bcrSuccess then (a.bind, { s with socket := none })
  else (bcrSuccess, { s with socket := some ⟨true, true⟩ })

/-- A restart is over, with its result. -/
def endRestart (result : BCRESULT) : Sender :=
  { s with pendingRestart := s.pendingRestart - 1, checkAvailable := false }.note
    (.calls (.onRestart result))

/-- A receive is started. A missing socket ends the process. -/
def recvV2 : Sender :=
  match s.socket with
  | none => s
  | some _ =>
    if sys.recv s.receives = bcrSuccess ∨ sys.recv s.receives = bcrInProgress then
      { s with pendingRecv := s.pendingRecv + 1, receives := s.receives + 1 }
    else { s with receives := s.receives + 1 }

/-- The end of `_UDP_RecvChunk`, with `_ExitCheck`. -/
def recvMore (exitCheck : Sender → Bool × Sender) : Sender :=
  if s.pendingRecv > 0 then s else (exitCheck (s.recvV2 sys)).2

/-- `_UDP_RecvChunk`, with `_ExitCheck`. -/
def recvChunkWith (exitCheck : Sender → Bool × Sender) : Sender :=
  if (exitCheck s).1 then (exitCheck s).2
  else ((exitCheck s).2.note (.passes .recvChunk (exitCheck s).2.socket)).recvMore sys exitCheck

/-- The availability check has been scheduled with a result. -/
def checkScheduled (schedule : BCRESULT) : Sender :=
  if schedule = bcrSuccess then { s with checkTimer := true } else s.endRestart schedule

/-- `_Restart` behind `_InitSocket`, with `_ExitCheck`. -/
def restarted (exitCheck : Sender → Bool × Sender) (schedule : BCRESULT)
    (r : BCRESULT × Sender) : Sender :=
  if r.1 = bcrSuccess ∧ r.2.checkAvailable = true then
    (({ r.2 with recvDataCount := 0 }.note (.calls .onCheckAvailable)).recvChunkWith sys
      exitCheck).checkScheduled schedule
  else r.2.endRestart r.1

/-- `_Restart`, with `_ExitCheck`. -/
def restart (exitCheck : Sender → Bool × Sender) : Sender :=
  restarted sys exitCheck (sys.setup s.restarts).schedule
    ({ s with restarts := s.restarts + 1 }.initSocket (sys.setup s.restarts))

/-- A restarted sender reads again. -/
def reopened : Sender := { s with state := sndrStateReading }.setState sndrStateMax bcrSuccess

/-- The queue is shut down at the foot of the ladder. -/
def shutDown : Sender :=
  if s.state = sndrStateInactive then { s with checkTimer := false, detached := true } else s

/-- The foot of the ladder; whether the caller is to leave. -/
def bottom (exitCheck : Sender → Bool × Sender) : Bool × Sender :=
  if s.newState = sndrStateInactive then
    if s.pendingRestart > 0 then
      (false, ({ s with checkTimer := false }.restart sys exitCheck).reopened)
    else (false, s)
  else (true, s.shutDown)

/-- The ladder from the state `READY`; whether the caller is to leave. -/
def comeDown (exitCheck : Sender → Bool × Sender) : Bool × Sender :=
  if s.pendingRecv ≠ 0 ∨ s.pendingSend ≠ 0 then (true, s)
  else if s.ctrls > 0 then (true, { s with socket := none })
  else { s with socket := none, state := sndrStateInactive }.bottom sys exitCheck

/-- The operations are cancelled and the state `READING` is left. -/
def leaveReading : Sender :=
  if s.state = sndrStateReading then { s with state := sndrStateReady } else s

/-- `_ExitCheck` with a bound for the calls of itself on the way: whether the caller is to
leave. -/
def exitCheckFuel : ℕ → Sender → Bool × Sender
  | 0, s => (true, s)
  | fuel + 1, s =>
    if s.state ≤ s.newState then (false, s)
    else if s.leaveReading.state = sndrStateReady then
      s.leaveReading.comeDown sys (exitCheckFuel fuel)
    else (true, s.leaveReading.shutDown)

/-- `_ExitCheck`. In `_Restart` it is called again, where it finds no lower state. -/
def exitCheck : Bool × Sender := exitCheckFuel sys 2 s

/-- `_UDP_RecvChunk`. -/
def udpRecvChunk : Sender := s.recvChunkWith sys (exitCheck sys)

/-- A test of `_ExitCheck` in front of the rest of a function. -/
def unlessExit (rest : Sender → Sender) : Sender :=
  if (s.exitCheck sys).1 then (s.exitCheck sys).2 else rest (s.exitCheck sys).2

/-- A user of the socket passes its test of `_ExitCheck`. -/
def pass (user : User) (use : Sender → Sender) : Sender :=
  s.unlessExit sys fun s => use (s.note (.passes user s.socket))

/-- `_UDP_Send`, with the result of `SendTo`. A missing socket ends the process. -/
def udpSend (result : BCRESULT) : Sender :=
  match s.socket with
  | none => s
  | some _ =>
    if result = bcrSuccess ∨ result = bcrInProgress then
      { s with pendingSend := s.pendingSend + 1 }
    else s

/-- `Send`. -/
def send (result : BCRESULT) : Sender := s.pass sys .send fun s => s.udpSend result

/-- `SendMMsg`. -/
def sendMMsg (iovecLen : ℕ) (result : BCRESULT) : Sender :=
  s.pass sys .sendMMsg fun s =>
    if iovecLen > bcSocketMaxScatterGather then s else s.udpSend result

/-- `Connect`. -/
def connect : Sender := s.pass sys .connect id

/-- What a failed operation asks for, when no restart is pending. -/
def onResult (result : BCRESULT) : Sender :=
  if result ≠ bcrSuccess ∧ s.pendingRestart = 0 ∧ ¬ IsTransient result then
    s.setState sndrStateFreed result
  else s

/-- The handler is called without the lock. -/
def callOutside (callback : Callback) : Sender :=
  { s.note (.calls callback) with outside := true }

/-- `_RecvDoneCallback` behind its first test of `_ExitCheck`. -/
def received (size : ℕ) : Sender :=
  { s.udpRecvChunk sys with
    recvDataCount := (s.udpRecvChunk sys).recvDataCount + size }.callOutside .onRecvData

/-- `_RecvDoneCallback` up to the call of the handler. -/
def recvDone (result : BCRESULT) (size : ℕ) : Sender :=
  ({ s with pendingRecv := s.pendingRecv - 1 }.onResult result).unlessExit sys fun s =>
    s.received sys size

/-- `_SendDoneCallback` up to the call of the handler. -/
def sendDone (result : BCRESULT) : Sender :=
  ({ s with pendingSend := s.pendingSend - 1 }.onResult result).unlessExit sys fun s =>
    s.callOutside .onSendData

/-- What an exception asks for. -/
def onThrown (threw : Bool) : Sender :=
  if threw then s.setState sndrStateFreed bcrUnexpected else s

/-- The end of a callback of the socket, when the handler returns or throws. -/
def returned (threw : Bool) : Sender :=
  (({ s with outside := false }.onThrown threw).exitCheck sys).2

/-- The events of the queue. -/
inductive Event where
  /-- `SNDRM_STARTWORK`; whether the host is an address. -/
  | startWork (parses : Bool)
  /-- `SNDRM_START_RECV`. -/
  | startRecv
  /-- `SNDRM_STOPWORK`. -/
  | stopWork
  /-- `SNDRM_RESTART_WORK`. -/
  | restartWork (checkAvailable : Bool)
  /-- Every other one. -/
  | other
  deriving DecidableEq

/-- A restart is asked for. -/
def restartWork (checkAvailable : Bool) : Sender :=
  { (if s.pendingRestart = 0 then s.setState sndrStateInactive bcrSuccess else s) with
    pendingRestart := s.pendingRestart + 1
    checkAvailable := checkAvailable
    recvDataCount := 0 }

/-- An event is handled. -/
def onEvent : Event → Sender
  | .startWork parses => if parses then s.udpRecvChunk sys else s
  | .startRecv => s.udpRecvChunk sys
  | .stopWork => s.setState sndrStateFreed bcrSuccess
  | .restartWork checkAvailable => s.restartWork checkAvailable
  | .other => s

/-- `OnEventProcess`. -/
def onEventProcess (e : Event) : Sender :=
  s.unlessExit sys fun s => ((s.onEvent sys e).exitCheck sys).2

/-- What the availability check finds. -/
def checked : Sender :=
  if s.recvDataCount > 0 then
    { s with
      recvDataCount := 0
      pendingRestart := s.pendingRestart - 1
      checkAvailable := false }.note (.calls (.onRestart bcrSuccess))
  else
    { s with pendingRestart := s.pendingRestart - 1, checkAvailable := false }.setState
      sndrStateInactive bcrNetUnreach

/-- The task of the availability check. -/
def onCheckTimer : Sender :=
  s.unlessExit sys fun s => ({ s with checkTimer := false }.checked.exitCheck sys).2

/-- `OnEventProcShutdown`. -/
def onEventProcShutdown : Sender :=
  { s with socket := none, closed := true }.note (.calls .onUdpClosed)

end Sender

/-- What happens to a sender. -/
inductive Step where
  /-- `Send`, with the result of `SendTo`. -/
  | send (result : BCRESULT)
  /-- `SendMMsg`, with the result of `SendTo`. -/
  | sendMMsg (iovecLen : ℕ) (result : BCRESULT)
  /-- `Connect`. -/
  | connect
  /-- A receive is done. -/
  | recvDone (result : BCRESULT) (size : ℕ)
  /-- A send is done. -/
  | sendDone (result : BCRESULT)
  /-- The handler returns or throws. -/
  | returned (threw : Bool)
  /-- A connect is done. -/
  | connectDone
  /-- The queue has an event. -/
  | event (e : Sender.Event)
  /-- The time of the availability check is over. -/
  | checkTimer
  /-- The queue has so many controls. -/
  | ctrl (n : ℕ)
  /-- The shutdown event of the queue. -/
  | shutdown
  deriving DecidableEq

namespace Sender

/-- What happens to a sender, if it can happen now. -/
def step (sys : System) (s : Sender) : Step → Sender
  | .send result => s.send sys result
  | .sendMMsg iovecLen result => s.sendMMsg sys iovecLen result
  | .connect => s.connect sys
  | .recvDone result size =>
    if s.outside ∨ s.pendingRecv = 0 then s else s.recvDone sys result size
  | .sendDone result => if s.outside ∨ s.pendingSend = 0 then s else s.sendDone sys result
  | .returned threw => if s.outside then s.returned sys threw else s
  | .connectDone => if s.outside ∨ s.closed then s else (s.exitCheck sys).2
  | .event e => if s.outside ∨ s.closed then s else s.onEventProcess sys e
  | .checkTimer => if s.outside ∨ ¬ s.checkTimer then s else s.onCheckTimer sys
  | .ctrl n => { s with ctrls := n }
  | .shutdown =>
    if s.outside ∨ ¬ s.detached ∨ s.closed then s else s.onEventProcShutdown

/-- A sender before `Create`. -/
def blank : Sender where
  socket := none
  pendingRecv := 0
  pendingSend := 0
  state := sndrStateInactive
  newState := sndrStateMax
  closeStatus := bcrSuccess
  pendingRestart := 0
  checkAvailable := false
  checkTimer := false
  recvDataCount := 0
  ctrls := 0
  detached := false
  closed := false
  outside := false
  restarts := 0
  receives := 0
  trace := []

/-- `Create`, with what the system answers to `_InitSocket`: the sender, if it succeeds. -/
def create (a : Setup) : Option Sender :=
  if (blank.initSocket a).1 = bcrSuccess then
    some { (blank.initSocket a).2 with state := sndrStateReading }
  else none

end Sender

end Udp
