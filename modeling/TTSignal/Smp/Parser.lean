import TTSignal.Bytes
import TTSignal.BC.Content

/-!
# The SMP frame parser and packer

`SMP::SMPParser` reads frames of a 17-byte header (type, payload size, timestamp and
transaction id, big endian) followed by the payload, from a byte stream that arrives in
arbitrary pieces. The 32-bit counter `require_data_size_` is a natural number reduced
modulo `2 ^ 32` at each operation; sizes of type `size_t` are natural numbers.
-/

namespace SMP

open Bytes BC

/-- `SMPHeader`. -/
structure SMPHeader where
  /-- `m_eDataType`. -/
  eDataType : UInt8
  /-- `m_nDataSize`. -/
  nDataSize : UInt32
  /-- `m_nTimestamp`. -/
  nTimestamp : UInt64
  /-- `m_nTransId`. -/
  nTransId : UInt32
  /-- `m_nStreamId`. -/
  nStreamId : UInt32
  deriving DecidableEq

/-- `SMPParser::ParseStateE`. -/
inductive ParseStateE where
  | parseType
  | parsePayloadSize
  | parseTimestamp
  | parseStreamId
  | parsePayload
  deriving DecidableEq

/-- The fields of `SMPParser` other than its handler. -/
structure SMPParser where
  /-- The first `data_size_` bytes of `data_buf_`. -/
  dataBuf : List UInt8
  /-- `buf_size_`. -/
  bufSize : ℕ
  /-- `parsed_size_`. -/
  parsedSize : ℕ
  /-- `parsed_header_`. -/
  parsedHeader : SMPHeader
  /-- `parse_state_`. -/
  parseState : ParseStateE
  /-- `require_data_size_`. -/
  requireDataSize : ℕ
  /-- The `pack_buf_size_` bytes at `pack_data_buf_`. -/
  packDataBuf : List UInt8

/-- A packet handed to `OnPacketParsed`: its header and its payload. -/
abbrev Parsed := SMPHeader × List UInt8

/-- `MY_UI8BEI`. -/
def myUI8BEI (x : List UInt8) : UInt8 := UInt8.ofNat (beValue (x.take 1))

/-- `MY_UI32BEI`. -/
def myUI32BEI (x : List UInt8) : UInt32 := UInt32.ofNat (beValue (x.take 4))

/-- `MY_UI64BEI`. -/
def myUI64BEI (x : List UInt8) : UInt64 := UInt64.ofNat (beValue (x.take 8))

/-- The header fields `_ParseHeader` reads at a position of the buffer. -/
def readHeader (streamId : UInt32) (x : List UInt8) : SMPHeader where
  eDataType := myUI8BEI x
  nDataSize := myUI32BEI (x.drop 1)
  nTimestamp := myUI64BEI (x.drop 5)
  nTransId := myUI32BEI (x.drop 13)
  nStreamId := streamId

/-- Unsigned 32-bit subtraction. -/
def sub32 (a n : ℕ) : ℕ := (a + 2 ^ 32 - n) % 2 ^ 32

namespace SMPParser

/-- A constructed parser after `Create` for a stream. -/
def create (streamId : UInt32) : SMPParser where
  dataBuf := []
  bufSize := 0
  parsedSize := 0
  parsedHeader := ⟨0, 0, 0, 0, streamId⟩
  parseState := .parseType
  requireDataSize := 17
  packDataBuf := []

/-- The bytes received and not yet consumed. -/
def unparsed (p : SMPParser) : List UInt8 := p.dataBuf.drop p.parsedSize

/-- `_RequireData`: the state changes only when nothing else is required. -/
def requireData (p : SMPParser) (nSize : ℕ) (eParseState : ParseStateE) : Bool × SMPParser :=
  let parseState := if p.requireDataSize = 0 then eParseState else p.parseState
  let required := (p.requireDataSize + nSize) % 2 ^ 32
  (decide (required ≤ p.dataBuf.length - p.parsedSize),
    { p with parseState := parseState, requireDataSize := required })

/-- `_ParseHeader`. -/
def parseHeader (p : SMPParser) : Bool × SMPParser :=
  let header := readHeader p.parsedHeader.nStreamId p.unparsed
  let required := sub32 (sub32 (sub32 (sub32 p.requireDataSize 1) 4) 8) 4
  requireData
    { p with parsedHeader := header, requireDataSize := required, parsedSize := p.parsedSize + 17 }
    header.nDataSize.toNat .parsePayload

/-- `_ParsePayload`; the last component is what `OnPacketParsed` receives. -/
def parsePayload (p : SMPParser) : Bool × SMPParser × Parsed :=
  let size := p.parsedHeader.nDataSize.toNat
  let result := requireData
    { p with requireDataSize := sub32 p.requireDataSize size, parsedSize := p.parsedSize + size }
    17 .parseType
  (result.1, result.2, p.parsedHeader, p.unparsed.take size)

/-- The loop of `Parse`; a state that is neither header nor payload only repeats the
test at its top. -/
def parseLoop : ℕ → SMPParser → SMPParser × List Parsed
  | 0, p => (p, [])
  | fuel + 1, p =>
    if p.dataBuf.length - p.parsedSize < p.requireDataSize then (p, [])
    else
      match p.parseState with
      | .parseType =>
        let r := p.parseHeader
        if r.1 then parseLoop fuel r.2 else (r.2, [])
      | .parsePayload =>
        let r := p.parsePayload
        let rest := if r.1 then parseLoop fuel r.2.1 else (r.2.1, [])
        (rest.1, r.2.2 :: rest.2)
      | _ => parseLoop fuel p

/-- Copy the received bytes behind the buffered ones, growing the buffer when needed. -/
def receive (p : SMPParser) (data : List UInt8) : SMPParser :=
  { p with
    dataBuf := p.dataBuf ++ data
    bufSize :=
      if p.bufSize - p.dataBuf.length < data.length then p.dataBuf.length + data.length
      else p.bufSize }

/-- Drop the consumed bytes at the end of `Parse`. -/
def compact (p : SMPParser) : SMPParser :=
  if p.dataBuf.length ≤ p.parsedSize then { p with dataBuf := [], parsedSize := 0 }
  else if 0 < p.parsedSize then { p with dataBuf := p.unparsed, parsedSize := 0 }
  else p

/-- `Parse`, with the packets it delivers. Each header takes 17 bytes, so the loop makes
fewer turns than the fuel. -/
def parse (p : SMPParser) (data : List UInt8) : SMPParser × List Parsed :=
  let r := parseLoop (2 * (p.dataBuf.length + data.length) + 2) (p.receive data)
  (r.1.compact, r.2)

/-- Successive `Parse` calls, with all packets they deliver. -/
def parseAll (p : SMPParser) : List (List UInt8) → SMPParser × List Parsed
  | [] => (p, [])
  | chunk :: chunks =>
    let r := p.parse chunk
    let rest := parseAll r.1 chunks
    (rest.1, r.2 ++ rest.2)

end SMPParser

/-- `BCFBOStream`: a fixed region and the bytes written into it so far. -/
structure BCFBOStream where
  /-- `m_nSize`. -/
  nSize : ℕ
  /-- The first `m_nUsedLen` bytes of the region. -/
  written : List UInt8

/-- `BCFBOStream::Write`: what does not fit is not written. -/
def BCFBOStream.write (s : BCFBOStream) (data : List UInt8) : BCFBOStream :=
  { s with written := s.written ++ data.take (s.nSize - s.written.length) }

/-- The loop of `BCOStream::WriteFrom`, copying through a buffer of 1024 bytes. -/
def writeFromLoop : ℕ → BCFBOStream → BCBuffer → ℕ → BCFBOStream
  | 0, dest, _, _ => dest
  | fuel + 1, dest, reader, nDataLen =>
    let r := reader.read (min nDataLen 1024)
    if r.1 = [] then dest
    else writeFromLoop fuel (dest.write r.1) r.2 (nDataLen - r.1.length)

/-- `BCOStream::WriteFrom`. -/
def writeFrom (dest : BCFBOStream) (reader : BCBuffer) (len : ℕ) : BCFBOStream :=
  writeFromLoop len dest reader len

/-- The 17 header bytes of a frame. -/
def headerBytes (type : UInt8) (payloadSize : ℕ) (timestamp : UInt64) (transId : UInt32) :
    List UInt8 :=
  beBytes 1 type.toNat ++ beBytes 4 payloadSize ++ beBytes 8 timestamp.toNat ++
    beBytes 4 transId.toNat

/-- The size `PackData` hands to `OnDataPacked`: the sum is kept in an `int`, and a
negative `int` becomes a huge `size_t`. -/
def packedSize (payloadSize : ℕ) : ℕ :=
  let offset := (17 + payloadSize) % 2 ^ 32
  if offset < 2 ^ 31 then offset else offset + (2 ^ 64 - 2 ^ 32)

/-- `PackData`: the parser with its pack buffer filled, and the bytes handed to
`OnDataPacked`; `none` when the size handed over reaches outside the pack buffer. -/
def SMPParser.packData (p : SMPParser) (type : UInt8) (timestamp : UInt64) (transId : UInt32)
    (payload : BCBuffer) : SMPParser × Option (List UInt8) :=
  let buffer := payload.refClone
  let payloadSize := buffer.remainingLength
  let needed := (17 + payloadSize) % 2 ^ 32
  let grown :=
    if p.packDataBuf.length < needed then
      p.packDataBuf ++ List.replicate (needed - p.packDataBuf.length) 0
    else p.packDataBuf
  let body := (writeFrom ⟨payloadSize, []⟩ buffer payloadSize).written
  let filled := Blocks.splice grown 0 (headerBytes type payloadSize timestamp transId ++ body)
  let size := packedSize payloadSize
  ({ p with packDataBuf := filled },
    if size ≤ filled.length then some (filled.take size) else none)

end SMP
