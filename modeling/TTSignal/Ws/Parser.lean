import TTSignal.Bytes
import TTSignal.Smp.Parser

/-!
# The WebSocket frame parser

`WS::WSParser` reads WebSocket frames from a byte stream that arrives in pieces: two
header bytes, an extended length of two or eight bytes, a mask, and the payload. Control
frames and whole messages are delivered as they are, fragments are joined. A frame that
breaks the rules makes `ParseWSFrame` throw.

The bytes that came in but are not parsed yet stand in a `BCBuffer`; `require_data_size_`
is a 32-bit counter, a natural number reduced modulo `2 ^ 32` at each operation.
-/

namespace WS

open BC Bytes SMP

/-- `WSFrameHeader`. -/
structure WSFrameHeader where
  /-- `is_final`. -/
  isFinal : Bool
  /-- `opcode`. -/
  opcode : UInt8
  /-- `has_mask`. -/
  hasMask : Bool
  /-- The four bytes of `mask`. -/
  mask : List UInt8
  /-- `payload_size`. -/
  payloadSize : ℕ
  deriving DecidableEq

/-- `WSParser::ParseStateE`. -/
inductive ParseStateE where
  | parseFirst2Bytes
  | parsePayloadSize
  | parseMask
  | parsePayload
  deriving DecidableEq

/-- `BCException`: the function that throws it and the reason it gives. -/
structure BCException where
  /-- The name of the function. -/
  function : String
  /-- The reason. -/
  reason : String
  deriving DecidableEq

/-- What `OnRecvWSFrame` receives: a header and a payload. -/
abbrev Frame := WSFrameHeader × List UInt8

/-- `WS_OP_CONTINUE`. -/
def wsOpContinue : UInt8 := 0x0

/-- `WS_OP_BINARY`. -/
def wsOpBinary : UInt8 := 0x2

/-- `WS_OP_CLOSE`. -/
def wsOpClose : UInt8 := 0x8

/-- `WS_OP_PONG`. -/
def wsOpPong : UInt8 := 0xA

/-- `WS_DEFAULT_MAX_FRAME_BYTES`. -/
def wsDefaultMaxFrameBytes : ℕ := 8 * 1024 * 1024

/-- `WS_MAX_CONTROL_PAYLOAD`. -/
def wsMaxControlPayload : ℕ := 125

/-- An opcode of a control frame. -/
def isControl (opcode : UInt8) : Bool := opcode &&& 0x08 ≠ 0

/-- The fields of the parser that describe the frame and the message being read. -/
structure Message where
  /-- `parsed_header_`. -/
  parsedHeader : WSFrameHeader
  /-- `frag_buffer_`. -/
  fragBuffer : List UInt8
  /-- `frag_opcode_`. -/
  fragOpcode : UInt8
  /-- `in_fragment_`. -/
  inFragment : Bool
  deriving DecidableEq

namespace Message

variable (m : Message)

/-- The tests of `_ParseFirst2Bytes` on the first byte, and the opcode of the frame. -/
def checkFirstByte (first : UInt8) : Except BCException UInt8 :=
  let opcode := first &&& 0x0F
  if first &&& 0x70 ≠ 0 then
    .error ⟨"_ParseFirst2Bytes",
      "Invalid websocket frame: RSV bits set but no extension negotiated"⟩
  else if opcode > wsOpPong ∨ (opcode > wsOpBinary ∧ opcode < wsOpClose) then
    .error ⟨"_ParseFirst2Bytes", "Invalid websocket frame: reserved opcode"⟩
  else if opcode = wsOpContinue then
    if ¬ m.inFragment then
      .error ⟨"_ParseFirst2Bytes",
        "Invalid websocket frame: continuation without a started message"⟩
    else .ok m.fragOpcode
  else if isControl opcode then .ok opcode
  else if m.inFragment then
    .error ⟨"_ParseFirst2Bytes",
      "Invalid websocket frame: new data frame while a fragmented message is open"⟩
  else .ok opcode

/-- The tests of `_ParseFirst2Bytes` on the lengths of control frames. -/
def checkControl (opcode : UInt8) (isFinal : Bool) (payloadSize : ℕ) : Except BCException Unit :=
  if ¬ isControl opcode then .ok ()
  else if ¬ isFinal then
    .error ⟨"_ParseFirst2Bytes", "Invalid websocket frame: fragmented control frame"⟩
  else if payloadSize > wsMaxControlPayload then
    .error ⟨"_ParseFirst2Bytes",
      "Invalid websocket frame: control frame payload exceeds 125 bytes"⟩
  else if opcode = wsOpClose ∧ payloadSize = 1 then
    .error ⟨"_ParseFirst2Bytes",
      "Invalid websocket frame: close frame body must be empty or >= 2 bytes"⟩
  else .ok ()

/-- What `_ParseFirst2Bytes` makes of its two bytes. -/
def withFirst2Bytes (data : List UInt8) : Except BCException Message :=
  let first := data.getD 0 0
  let second := data.getD 1 0
  let isFinal := first &&& 0x80 ≠ 0
  let payloadSize := (second &&& 0x7F).toNat
  match m.checkFirstByte first with
  | .error e => .error e
  | .ok opcode =>
    match checkControl (first &&& 0x0F) isFinal payloadSize with
    | .error e => .error e
    | .ok () =>
      .ok
        { m with
          parsedHeader :=
            { m.parsedHeader with
              isFinal := isFinal
              opcode := opcode
              hasMask := second >>> 7 ≠ 0
              payloadSize := payloadSize } }

/-- What `_ParsePayloadSize` makes of an extended length. -/
def withPayloadSize (maxFrameBytes : ℕ) (data : List UInt8) : Except BCException Message :=
  let size := beValue data
  if m.parsedHeader.payloadSize = 126 then
    .ok { m with parsedHeader := { m.parsedHeader with payloadSize := size } }
  else if m.parsedHeader.payloadSize = 127 then
    if size / 2 ^ 63 ≠ 0 ∨ size > maxFrameBytes then
      .error ⟨"_ParsePayloadSize",
        "Invalid websocket frame: payload length exceeds maxFrameBytes"⟩
    else .ok { m with parsedHeader := { m.parsedHeader with payloadSize := size } }
  else .ok m

/-- The tests of `_EnterPayloadStage`. -/
def checkSize (maxFrameBytes : ℕ) : Except BCException Unit :=
  if m.parsedHeader.payloadSize > maxFrameBytes then
    .error ⟨"_EnterPayloadStage",
      "Invalid websocket frame: payload length exceeds maxFrameBytes"⟩
  else if ¬ isControl m.parsedHeader.opcode ∧
      m.fragBuffer.length + m.parsedHeader.payloadSize > maxFrameBytes then
    .error ⟨"_EnterPayloadStage",
      "Invalid websocket frame: reassembled message exceeds maxFrameBytes"⟩
  else .ok ()

/-- What `_ParseMask` keeps. -/
def withMask (data : List UInt8) : Message :=
  { m with parsedHeader := { m.parsedHeader with mask := data } }

/-- The bytes of a payload with the mask taken off, if there is one. -/
def unmasked (data : List UInt8) : List UInt8 :=
  if m.parsedHeader.hasMask then
    data.mapIdx fun i b => b ^^^ m.parsedHeader.mask.getD (i % 4) 0
  else data

/-- `_DeliverPayload`, with the frame it hands over. -/
def deliverPayload (payload : List UInt8) : Message × List Frame :=
  if isControl m.parsedHeader.opcode then (m, [(m.parsedHeader, payload)])
  else if m.parsedHeader.isFinal ∧ ¬ m.inFragment then (m, [(m.parsedHeader, payload)])
  else if ¬ m.parsedHeader.isFinal then
    ({ m with
        fragBuffer := m.fragBuffer ++ payload
        inFragment := true
        fragOpcode := m.parsedHeader.opcode }, [])
  else
    ({ m with fragBuffer := [], inFragment := false, fragOpcode := 0 },
      [({ m.parsedHeader with payloadSize := (m.fragBuffer ++ payload).length },
        m.fragBuffer ++ payload)])

end Message

/-- `WSParser`. -/
structure WSParser extends Message where
  /-- `buffer_`. -/
  buffer : BCBuffer
  /-- `parse_state_`. -/
  parseState : ParseStateE
  /-- `require_data_size_`. -/
  requireDataSize : ℕ
  /-- `flat_buffer_`. -/
  flatBuffer : List UInt8
  /-- `max_frame_bytes_`. -/
  maxFrameBytes : ℕ

/-- The loop of `BCOStream::WriteFrom(BCBuffer &)`, block after block. -/
def writeFromBufferLoop : ℕ → BCFBOStream → BCBuffer → ℕ → BCFBOStream × BCBuffer
  | 0, dest, b, _ => (dest, b)
  | fuel + 1, dest, b, nDataLen =>
    let r := b.readBlock nDataLen
    if r.1 = [] then (dest, r.2)
    else writeFromBufferLoop fuel (dest.write r.1) r.2 (nDataLen - r.1.length)

/-- `BCOStream::WriteFrom(BCBuffer &)`; every turn writes at least one byte. -/
def writeFromBuffer (dest : BCFBOStream) (b : BCBuffer) (len : ℕ) : BCFBOStream × BCBuffer :=
  writeFromBufferLoop (len + 1) dest b len

namespace WSParser

variable (p : WSParser)

/-- `_RequireData`: the state changes only when nothing else is required. -/
def requireData (nSize : ℕ) (eParseState : ParseStateE) : Bool × WSParser :=
  let parseState := if p.requireDataSize = 0 then eParseState else p.parseState
  let required := (p.requireDataSize + nSize) % 2 ^ 32
  (decide (required ≤ p.buffer.remainingLength),
    { p with parseState := parseState, requireDataSize := required })

/-- The constructor. -/
def create : WSParser :=
  (requireData
    { parsedHeader := ⟨false, 0, false, [0, 0, 0, 0], 0⟩
      fragBuffer := []
      fragOpcode := 0
      inFragment := false
      buffer := BCBuffer.empty
      parseState := .parseFirst2Bytes
      requireDataSize := 0
      flatBuffer := []
      maxFrameBytes := wsDefaultMaxFrameBytes } 2 .parseFirst2Bytes).2

/-- `SetMaxFrameBytes`. -/
def setMaxFrameBytes (nBytes : ℕ) : WSParser :=
  if 0 < nBytes then { p with maxFrameBytes := min nBytes (2 ^ 32 - 1) } else p

/-- The parser after bytes have been read from its buffer. -/
def consumed (buffer : BCBuffer) (readSize : ℕ) : WSParser :=
  { p with buffer := buffer, requireDataSize := sub32 p.requireDataSize readSize }

/-- The parser with another frame and message. -/
def withMessage (m : Message) : WSParser := { p with toMessage := m }

/-- `_EnterPayloadStage`. -/
def enterPayloadStage : Except BCException (Bool × WSParser) :=
  match p.toMessage.checkSize p.maxFrameBytes with
  | .error e => .error e
  | .ok () =>
    if p.parsedHeader.hasMask then .ok (p.requireData 4 .parseMask)
    else .ok (p.requireData (p.parsedHeader.payloadSize % 2 ^ 32) .parsePayload)

/-- `_ParseFirst2Bytes`. -/
def parseFirst2Bytes : Except BCException (Bool × WSParser) :=
  let r := p.buffer.read 2
  match p.toMessage.withFirst2Bytes r.1 with
  | .error e => .error e
  | .ok m =>
    let p := (p.consumed r.2 r.1.length).withMessage m
    if m.parsedHeader.payloadSize = 126 then .ok (p.requireData 2 .parsePayloadSize)
    else if m.parsedHeader.payloadSize = 127 then .ok (p.requireData 8 .parsePayloadSize)
    else p.enterPayloadStage

/-- The number of bytes `_ParsePayloadSize` reads. -/
def extendedSize (h : WSFrameHeader) : ℕ :=
  if h.payloadSize = 126 then 2 else if h.payloadSize = 127 then 8 else 0

/-- `_ParsePayloadSize`. -/
def parsePayloadSize : Except BCException (Bool × WSParser) :=
  let r := p.buffer.read (extendedSize p.parsedHeader)
  match p.toMessage.withPayloadSize p.maxFrameBytes r.1 with
  | .error e => .error e
  | .ok m => ((p.consumed r.2 r.1.length).withMessage m).enterPayloadStage

/-- `_ParseMask`. -/
def parseMask : Bool × WSParser :=
  let r := p.buffer.read 4
  ((p.consumed r.2 r.1.length).withMessage (p.toMessage.withMask r.1)).requireData
    (p.parsedHeader.payloadSize % 2 ^ 32) .parsePayload

/-- `_ParsePayload`, with the frames it hands over. -/
def parsePayload : Except BCException (Bool × WSParser × List Frame) :=
  let size := p.parsedHeader.payloadSize
  if p.requireDataSize < size then .error ⟨"_ParsePayload", "Invalid websocket frame"⟩
  else if size = 0 then
    let d := p.toMessage.deliverPayload []
    let r := (p.withMessage d.1).requireData 2 .parseFirst2Bytes
    .ok (r.1, r.2, d.2)
  else
    let flat := p.flatBuffer ++ List.replicate (size - p.flatBuffer.length) 0
    let w := writeFromBuffer ⟨size, []⟩ p.buffer size
    let data := Blocks.splice flat 0 (p.toMessage.unmasked w.1.written)
    let d := p.toMessage.deliverPayload (data.take size)
    let r := ({ (p.consumed w.2 w.1.written.length).withMessage d.1 with
      flatBuffer := data }).requireData 2 .parseFirst2Bytes
    .ok (r.1, r.2, d.2)

/-- One turn of the loop of `ParseWSFrame`. -/
def turn : Except BCException (Bool × WSParser × List Frame) :=
  match p.parseState with
  | .parseFirst2Bytes => p.parseFirst2Bytes.map fun r => (r.1, r.2, [])
  | .parsePayloadSize => p.parsePayloadSize.map fun r => (r.1, r.2, [])
  | .parseMask => .ok (p.parseMask.1, p.parseMask.2, [])
  | .parsePayload => p.parsePayload

/-- The loop of `ParseWSFrame`, with the frames it hands over before it ends or throws. -/
def parseLoop : ℕ → WSParser → List Frame × Except BCException WSParser
  | 0, p => ([], .ok p)
  | fuel + 1, p =>
    if p.buffer.remainingLength < p.requireDataSize then ([], .ok p)
    else
      match p.turn with
      | .error e => ([], .error e)
      | .ok (again, p', frames) =>
        if again then (frames ++ (parseLoop fuel p').1, (parseLoop fuel p').2)
        else (frames, .ok p')

/-- `buffer_.Write(data, size)`: the size becomes a 32-bit number. -/
def receive (data : List UInt8) : WSParser :=
  { p with buffer := p.buffer.write (data.take (data.length % 2 ^ 32)) }

/-- The end of `ParseWSFrame`: parsed bytes are dropped. -/
def compact : WSParser :=
  { p with
    buffer := if p.buffer.remainingLength = 0 then p.buffer.reset else p.buffer.removeConsumed }

/-- `ParseWSFrame`. A frame takes at most four turns and its first two bytes, so the loop
makes fewer turns than the fuel. -/
def parseWSFrame (data : List UInt8) : List Frame × Except BCException WSParser :=
  let r := parseLoop (2 * (p.buffer.remainingLength + data.length) + 4) (p.receive data)
  (r.1, r.2.map compact)

end WSParser

end WS
