import TTSignal.Runs
import TTSignal.Smp.Packet

/-!
# The client's send queue

`SMPStream` keeps packed packets in `send_buff_list_` and offers the packet at the front
to the transport block by block. A partial or refused write leaves the packet and its
read cursor in place, and the next submission or write notification goes on from there.
Everything the stream does is recorded in the order it happens: the bytes the transport
took and the calls of `OnStreamDataSent`.
-/

namespace SMP

open BC Runs

/-- A packet waiting in `send_buff_list_` with its packed buffer. -/
structure Queued where
  /-- The packet. -/
  pkt : SMPacket
  /-- Its `packed_jmp_data`. -/
  buff : BCBuffer

/-- A packet as `SendPacket_Internal` hands it on: packed into a buffer of its own. -/
def SMPacket.packed (pkt : SMPacket) : SMPacket :=
  { pkt with packedJmpData := some pkt.packPacket }

/-- The queue entry of a packed packet. -/
def SMPacket.queued (pkt : SMPacket) : Queued := ⟨pkt.packed, pkt.packPacket⟩

/-- What a stream does, in order. -/
inductive StreamOutput where
  /-- The transport took bytes. -/
  | accepted (data : List UInt8)
  /-- `OnStreamDataSent(stream_id, trans_id, size)`. -/
  | streamDataSent (streamId transId : UInt32) (size : ℕ)

/-- The bytes the transport took. -/
def acceptedBytes (outputs : List StreamOutput) : List UInt8 :=
  outputs.flatMap fun
    | .accepted data => data
    | .streamDataSent _ _ _ => []

/-- The `OnStreamDataSent` calls. -/
def sentNotices (outputs : List StreamOutput) : List (UInt32 × UInt32 × ℕ) :=
  outputs.filterMap fun
    | .accepted _ => none
    | .streamDataSent streamId transId size => some (streamId, transId, size)

/-- `SMPStream`, as far as sending uses it. -/
structure SMPStream where
  /-- `stream_id_`. -/
  streamId : UInt32
  /-- `stream_` is not null. -/
  isOpen : Bool
  /-- `parser_`. -/
  parser : SMPParser
  /-- `send_buff_list_`. -/
  sendBuffList : List Queued
  /-- The number of `xqc_stream_send` calls made so far. -/
  sends : ℕ
  /-- What happened so far. -/
  outputs : List StreamOutput

/-- A stream after `Create`. -/
def SMPStream.create (streamId : UInt32) : SMPStream where
  streamId := streamId
  isOpen := true
  parser := SMPParser.create streamId
  sendBuffList := []
  sends := 0
  outputs := []

/-- The inputs of a stream's send path. -/
inductive StreamEvent where
  /-- `SMPConnection::SendPacket_Internal` with this packet. -/
  | sendPacket (pkt : SMPacket)
  /-- The transport can be written to again. -/
  | writeNotify
  /-- `SMPStream::Close`. -/
  | close

namespace SMPStream

variable (t : Transport)

/-- `SMPStream::Send`: the result and the stream after the call. -/
def send (s : SMPStream) (data : List UInt8) : ℤ × SMPStream :=
  if s.isOpen then
    (t.result s.sends data,
      { s with
        sends := s.sends + 1
        outputs :=
          if 0 < t.result s.sends data then s.outputs ++ [.accepted (t.taken s.sends data)]
          else s.outputs })
  else (-1, s)

/-- The inner loop of `_SendBuffList`: whether the whole buffer was taken, the stream and
the buffer with its cursor moved. -/
def sendBlocks : ℕ → SMPStream → BCBuffer → Bool × SMPStream × BCBuffer
  | 0, s, buff => (false, s, buff)
  | fuel + 1, s, buff =>
    let data := buff.peekBlock (2 ^ 32 - 1)
    if data = [] then (true, s, buff)
    else
      let r := s.send t data
      if r.1 < 0 ∨ r.1 = 0 ∨ data.length < r.1 then (false, r.2, buff)
      else sendBlocks fuel r.2 (buff.forward r.1.toNat)

/-- `OnStreamDataSent` for a packet. -/
def dataSent (s : SMPStream) (q : Queued) : SMPStream :=
  { s with
    outputs := s.outputs ++
      [.streamDataSent s.streamId q.pkt.transId q.pkt.origionData.nUsed] }

/-- The outer loop of `_SendBuffList` over the waiting packets. Each turn of the inner
loop takes at least one byte of the buffer. -/
def sendBuffListLoop : List Queued → SMPStream → SMPStream
  | [], s => { s with sendBuffList := [] }
  | q :: queue, s =>
    let r := s.sendBlocks t (q.buff.nUsed + 1) q.buff
    if r.1 then sendBuffListLoop queue (r.2.1.dataSent q)
    else { r.2.1 with sendBuffList := { q with buff := r.2.2 } :: queue }

/-- `_SendBuffList`. -/
def runSendBuffList (s : SMPStream) : SMPStream := s.sendBuffListLoop t s.sendBuffList

/-- `SMPStream::OnDataPacked` with the outcome of `PackData`. -/
def onDataPacked (s : SMPStream) (r : SMPParser × Option (List UInt8)) : SMPStream :=
  match r.2 with
  | some data => (send t { s with parser := r.1 } data).2
  | none => { s with parser := r.1 }

/-- `SMPStream::SendPacket`: a packed packet is queued; otherwise `PackData` hands its
output to `OnDataPacked`, which sends it at once. -/
def sendPacket (s : SMPStream) (pkt : SMPacket) : SMPStream :=
  match pkt.packedJmpData with
  | some buff => runSendBuffList t { s with sendBuffList := s.sendBuffList ++ [⟨pkt, buff⟩] }
  | none =>
    s.onDataPacked t (s.parser.packData pkt.type pkt.timestamp pkt.transId pkt.origionData)

/-- `SMPConnection::SendPacket_Internal`, as far as it concerns this stream: the packet is
packed first and goes to the stream its `stream_id` names. -/
def sendPacketInternal (s : SMPStream) (pkt : SMPacket) : SMPStream :=
  if pkt.streamId = s.streamId then
    s.sendPacket t pkt.packed
  else s

/-- One event of the send path. -/
def step (s : SMPStream) : StreamEvent → SMPStream
  | .sendPacket pkt => s.sendPacketInternal t pkt
  | .writeNotify => s.runSendBuffList t
  | .close => { s with isOpen := false }

end SMPStream

/-- The packets submitted to a stream, in order, each with its freshly packed buffer. -/
def submitted (streamId : UInt32) (events : List StreamEvent) : List Queued :=
  events.filterMap fun
    | .sendPacket pkt => if pkt.streamId = streamId then some pkt.queued else none
    | .writeNotify => none
    | .close => none

/-- The packed frame of a submitted packet. -/
def Queued.frame (q : Queued) : List UInt8 := q.buff.content

/-- The arguments of the `OnStreamDataSent` call that reports a packet. -/
def Queued.notice (streamId : UInt32) (q : Queued) : UInt32 × UInt32 × ℕ :=
  (streamId, q.pkt.transId, q.pkt.origionData.nUsed)

/-- The event runs the stream's queue. -/
def StreamEvent.RunsQueue (streamId : UInt32) : StreamEvent → Prop
  | .sendPacket pkt => pkt.streamId = streamId
  | .writeNotify => True
  | .close => False

/-- From the call with this number on, the transport takes all that it is offered. -/
def Transport.TakesAll (t : Transport) (first : ℕ) : Prop :=
  ∀ call data, first ≤ call → t.result call data = data.length

/-- Outputs in the order the submissions demand: what was taken is a prefix of their
frames, and what was reported is an initial part of them whose frames were all taken. -/
def Orderly (streamId : UInt32) (subs : List Queued) (outputs : List StreamOutput) : Prop :=
  acceptedBytes outputs <+: subs.flatMap Queued.frame ∧
    ∃ done, done <+: subs ∧ sentNotices outputs = done.map (Queued.notice streamId) ∧
      done.flatMap Queued.frame <+: acceptedBytes outputs

end SMP
