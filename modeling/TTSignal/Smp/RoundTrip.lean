import TTSignal.Smp.Decoding

/-!
# Packed frames survive any chunking

`PackData` writes the frames that the parser reads back. Packing computes the size it
hands over in an `int`, so a frame of `2 ^ 31` bytes or more is handed over with a size
that reaches outside the pack buffer; every smaller frame is handed over byte for byte,
and a list of such frames is recovered exactly, whatever the pieces it arrives in.
-/

namespace SMP

open Bytes BC Framing

/-- The arguments of one `PackData` call. The cursor of the payload buffer has not passed
its used bytes, as `RemainingLength` asserts. -/
structure PackArgs where
  /-- `type`. -/
  type : UInt8
  /-- `timestamp`. -/
  timestamp : UInt64
  /-- `transId`. -/
  transId : UInt32
  /-- `payload`. -/
  payload : BCBuffer
  /-- The cursor lies within the used bytes. -/
  cursor_le : payload.nCurrent ≤ payload.nUsed

namespace PackArgs

/-- The payload bytes. -/
def bytes (a : PackArgs) : List UInt8 := a.payload.remaining

/-- The packet a receiver on the stream should be given. -/
def packet (streamId : UInt32) (a : PackArgs) : Parsed :=
  (⟨a.type, UInt32.ofNat a.bytes.length, a.timestamp, a.transId, streamId⟩, a.bytes)

/-- The bytes of the frame: the header and the payload. -/
def frame (a : PackArgs) : List UInt8 :=
  headerBytes a.type a.bytes.length a.timestamp a.transId ++ a.bytes

/-- Arguments whose payload is a new buffer into which the data was written. -/
def ofBytes (type : UInt8) (timestamp : UInt64) (transId : UInt32) (data : List UInt8) :
    PackArgs where
  type := type
  timestamp := timestamp
  transId := transId
  payload := BCBuffer.empty.write data
  cursor_le := by
    rw [BCBuffer.nCurrent_write]
    exact Nat.zero_le _

end PackArgs

/-- The bytes of the frame that carries a packet. -/
def frameOf (m : Parsed) : List UInt8 :=
  headerBytes m.1.eDataType m.2.length m.1.nTimestamp m.1.nTransId ++ m.2

variable {a : PackArgs} {args : List PackArgs} {streamId : UInt32}

/-- A frame header takes 17 bytes. -/
@[simp] theorem length_headerBytes (type : UInt8) (size : ℕ) (timestamp : UInt64)
    (transId : UInt32) : (headerBytes type size timestamp transId).length = 17 := by
  simp [headerBytes]

/-- A frame is 17 bytes longer than its payload. -/
theorem PackArgs.length_frame (a : PackArgs) : a.frame.length = 17 + a.bytes.length := by
  rw [frame, List.length_append, length_headerBytes]

/-- Reading the header bytes gives back the header fields. -/
theorem readHeader_headerBytes {type : UInt8} {size : ℕ} {timestamp : UInt64}
    {transId : UInt32} (t : List UInt8) :
    readHeader streamId (headerBytes type size timestamp transId ++ t) =
      ⟨type, UInt32.ofNat size, timestamp, transId, streamId⟩ := by
  have hfield (front field back : List UInt8) :
      ((front ++ (field ++ back)).drop front.length).take field.length = field := by
    rw [List.drop_left, List.take_left]
  have h1 := hfield [] (beBytes 1 type.toNat)
    (beBytes 4 size ++ beBytes 8 timestamp.toNat ++ beBytes 4 transId.toNat ++ t)
  have h2 := hfield (beBytes 1 type.toNat) (beBytes 4 size)
    (beBytes 8 timestamp.toNat ++ beBytes 4 transId.toNat ++ t)
  have h3 := hfield (beBytes 1 type.toNat ++ beBytes 4 size) (beBytes 8 timestamp.toNat)
    (beBytes 4 transId.toNat ++ t)
  have h4 := hfield (beBytes 1 type.toNat ++ beBytes 4 size ++ beBytes 8 timestamp.toNat)
    (beBytes 4 transId.toNat) t
  simp only [List.append_assoc, List.length_append, length_beBytes, List.nil_append,
    List.length_nil, List.drop_zero, Nat.reduceAdd] at h1 h2 h3 h4
  simp only [readHeader, headerBytes, myUI8BEI, myUI32BEI, myUI64BEI, List.append_assoc, h1, h2,
    h3, h4, beValue_beBytes]
  have htype : type.toNat % 256 ^ 1 = type.toNat := Nat.mod_eq_of_lt type.toNat_lt
  have htime : timestamp.toNat % 256 ^ 8 = timestamp.toNat := Nat.mod_eq_of_lt timestamp.toNat_lt
  have htrans : transId.toNat % 256 ^ 4 = transId.toNat := Nat.mod_eq_of_lt transId.toNat_lt
  have hsize : UInt32.ofNat (size % 256 ^ 4) = UInt32.ofNat size := by
    apply UInt32.toNat.inj
    simp only [UInt32.toNat_ofNat']
    omega
  simp only [htype, htime, htrans, hsize, UInt8.ofNat_toNat, UInt32.ofNat_toNat,
    UInt64.ofNat_toNat]

/-- The decoder recognises the frame of every packet whose size fits the size field. -/
theorem PackArgs.encodes (streamId : UInt32) (hlt : a.bytes.length < 2 ^ 32) :
    (frameDecoder streamId).Encodes frameOf (a.packet streamId) := by
  have hsize : (UInt32.ofNat a.bytes.length).toNat = a.bytes.length := by
    rw [UInt32.toNat_ofNat', Nat.mod_eq_of_lt hlt]
  have hframe := a.length_frame
  have hof : frameOf (a.packet streamId) = a.frame := rfl
  constructor
  · intro t
    rw [hof]
    have hheader : readHeader streamId (a.frame ++ t) = (a.packet streamId).1 := by
      rw [frame, List.append_assoc]
      exact readHeader_headerBytes _
    have hread : (readHeader streamId (a.frame ++ t)).nDataSize.toNat = a.bytes.length := by
      rw [hheader]
      exact hsize
    refine (nextFrame_of_le (by rw [List.length_append]; omega)
      (by rw [hread, List.length_append]; omega)).trans ?_
    rw [hread, hheader, ← hframe, List.drop_left, frame, List.append_assoc]
    rw [List.drop_left' (length_headerBytes _ _ _ _), List.take_left]
    rfl
  · intro n hn
    rw [hof] at hn ⊢
    by_cases hshort : n < 17
    · exact nextFrame_of_lt (Or.inl (by rw [List.length_take]; omega))
    · have hheader : readHeader streamId (a.frame.take n) = (a.packet streamId).1 := by
        rw [frame, List.take_append, length_headerBytes,
          List.take_of_length_le (by rw [length_headerBytes]; omega)]
        exact readHeader_headerBytes _
      refine nextFrame_of_lt (Or.inr ?_)
      rw [hheader, List.length_take]
      have hval : (a.packet streamId).1.nDataSize.toNat = a.bytes.length := hsize
      omega

/-- `WriteFrom` copies the remaining bytes of the reader, up to the given length. -/
theorem written_writeFromLoop {fuel n : ℕ} {dest : BCFBOStream} {reader : BCBuffer}
    (hcur : reader.nCurrent ≤ reader.nUsed) (hfuel : n ≤ fuel)
    (hroom : dest.written.length + n ≤ dest.nSize) :
    (writeFromLoop fuel dest reader n).written = dest.written ++ reader.remaining.take n := by
  induction fuel generalizing n dest reader with
  | zero =>
    obtain rfl : n = 0 := by omega
    simp [writeFromLoop]
  | succ fuel ih =>
    have hrem := BCBuffer.length_remaining hcur
    rw [BCBuffer.remainingLength_eq hcur] at hrem
    have hread : reader.read (min n 1024) = (reader.remaining.take (min n 1024),
        reader.advance (min (min n 1024) (reader.nUsed - reader.nCurrent))) :=
      BCBuffer.read_eq hcur
    rw [writeFromLoop, hread]
    simp only
    by_cases hnil : reader.remaining.take (min n 1024) = []
    · rw [if_pos hnil]
      rcases List.take_eq_nil_iff.mp hnil with hzero | hempty
      · obtain rfl : n = 0 := by omega
        simp
      · simp [hempty]
    · rw [if_neg hnil]
      set part := reader.remaining.take (min n 1024) with hpart
      have hlen : part.length = min (min n 1024) (reader.nUsed - reader.nCurrent) := by
        rw [hpart, List.length_take, hrem]
      have hpos := List.length_pos_iff.mpr hnil
      have hused := reader.used_lt
      have hwrite : (dest.write part).written = dest.written ++ part := by
        rw [BCFBOStream.write, List.take_of_length_le (by omega)]
      have hcur' : (reader.advance part.length).nCurrent = reader.nCurrent + part.length :=
        Nat.mod_eq_of_lt (by omega)
      have hused' : (reader.advance part.length).nUsed = reader.nUsed := rfl
      have hsize : (dest.write part).nSize = dest.nSize := rfl
      rw [← hlen, ih (by omega) (by omega) (by rw [hwrite, List.length_append, hsize]; omega),
        hwrite, BCBuffer.remaining_advance (by omega), List.append_assoc]
      have hsplit : part = reader.remaining.take part.length := by
        rw [hpart, List.length_take, List.take_eq_take_iff]
        omega
      have hsum : part.length + (n - part.length) = n := by omega
      conv_rhs => rw [← hsum, List.take_add]
      rw [← hsplit]

/-- `PackData` copies the whole payload. -/
theorem PackArgs.written_writeFrom (a : PackArgs) :
    (writeFrom ⟨a.payload.remainingLength, []⟩ a.payload a.payload.remainingLength).written =
      a.bytes := by
  rw [writeFrom, written_writeFromLoop a.cursor_le le_rfl (by simp), List.nil_append,
    ← BCBuffer.length_remaining a.cursor_le, List.take_length]
  rfl

/-- One `PackData` call with the given arguments. -/
def SMPParser.pack (p : SMPParser) (a : PackArgs) : SMPParser × Option (List UInt8) :=
  p.packData a.type a.timestamp a.transId a.payload

/-- The concatenated outputs of successive `PackData` calls, if each of them stays inside
the pack buffer. -/
def SMPParser.packAll : SMPParser → List PackArgs → Option (List UInt8)
  | _, [] => some []
  | p, a :: args => (p.pack a).2.bind fun out => (packAll (p.pack a).1 args).map (out ++ ·)

/-- What `PackData` leaves in the pack buffer, and what it hands over. -/
theorem SMPParser.pack_eq (p : SMPParser) (hlt : 17 + a.bytes.length < 2 ^ 32) :
    ∃ tail : List UInt8,
      (p.pack a).1.packDataBuf = a.frame ++ tail ∧
      a.frame.length + tail.length = max p.packDataBuf.length (17 + a.bytes.length) ∧
      (p.pack a).2 =
        if packedSize a.bytes.length ≤ a.frame.length + tail.length then
          some ((a.frame ++ tail).take (packedSize a.bytes.length))
        else none := by
  have hsize : a.payload.remainingLength = a.bytes.length :=
    (BCBuffer.length_remaining a.cursor_le).symm
  have hframe := a.length_frame
  have hbody := a.written_writeFrom
  rw [hsize] at hbody
  have hmod : (17 + a.bytes.length) % 2 ^ 32 = 17 + a.bytes.length := Nat.mod_eq_of_lt hlt
  set grown := if p.packDataBuf.length < 17 + a.bytes.length then
      p.packDataBuf ++ List.replicate (17 + a.bytes.length - p.packDataBuf.length) 0
    else p.packDataBuf with hgrown
  have hlen : grown.length = max p.packDataBuf.length (17 + a.bytes.length) := by
    rw [hgrown]
    split
    · rw [List.length_append, List.length_replicate]
      omega
    · omega
  have hfilled : Blocks.splice grown 0 a.frame = a.frame ++ grown.drop a.frame.length := by
    simp [Blocks.splice]
  have hpack : p.pack a = ({ p with packDataBuf := Blocks.splice grown 0 a.frame },
      if packedSize a.bytes.length ≤ (Blocks.splice grown 0 a.frame).length then
        some ((Blocks.splice grown 0 a.frame).take (packedSize a.bytes.length))
      else none) := by
    simp only [pack, packData, BCBuffer.refClone, hsize, hmod, hbody]
    rfl
  refine ⟨grown.drop a.frame.length, ?_, ?_, ?_⟩
  · rw [hpack, hfilled]
  · rw [List.length_drop]
    omega
  · rw [hpack, hfilled, List.length_append]

/-- A frame that an `int` can count is handed over as it is. -/
theorem SMPParser.pack_of_lt (p : SMPParser) (hlt : 17 + a.bytes.length < 2 ^ 31) :
    (p.pack a).2 = some a.frame := by
  obtain ⟨tail, -, -, hout⟩ := p.pack_eq (a := a) (by omega)
  have hsize : packedSize a.bytes.length = a.frame.length := by
    rw [packedSize, a.length_frame, Nat.mod_eq_of_lt (by omega), if_pos hlt]
  rw [hout, hsize, if_pos (Nat.le_add_right _ _), List.take_left]

/-- A larger frame is handed over with a size that reaches outside the pack buffer. -/
theorem SMPParser.pack_of_le (p : SMPParser) (hbuf : p.packDataBuf.length < 2 ^ 33)
    (hle : 2 ^ 31 ≤ 17 + a.bytes.length) (hlt : 17 + a.bytes.length < 2 ^ 32) :
    (p.pack a).2 = none := by
  obtain ⟨tail, -, hlen, hout⟩ := p.pack_eq hlt
  have hmod : (17 + a.bytes.length) % 2 ^ 32 = 17 + a.bytes.length := Nat.mod_eq_of_lt hlt
  have hsize : packedSize a.bytes.length = 17 + a.bytes.length + (2 ^ 64 - 2 ^ 32) := by
    rw [packedSize]
    simp only [hmod]
    rw [if_neg (by omega)]
  rw [hout, if_neg (by omega)]

/-- The pack buffer stays below the 32-bit range. -/
theorem SMPParser.packDataBuf_pack_lt {p : SMPParser} (hbuf : p.packDataBuf.length < 2 ^ 32)
    (hlt : a.bytes.length < 2 ^ 31) : (p.pack a).1.packDataBuf.length < 2 ^ 32 := by
  obtain ⟨tail, hfilled, hlen, -⟩ := p.pack_eq (a := a) (by omega)
  rw [hfilled, List.length_append]
  omega

/-- If every frame can be counted by an `int`, the outputs are the frames. -/
theorem SMPParser.packAll_of_lt (p : SMPParser)
    (hlt : ∀ a ∈ args, 17 + a.bytes.length < 2 ^ 31) :
    p.packAll args = some (args.flatMap PackArgs.frame) := by
  induction args generalizing p with
  | nil => rfl
  | cons a args ih =>
    rw [packAll, p.pack_of_lt (hlt a (by simp)), ih _ fun b hb => hlt b (by simp [hb])]
    rfl

/-- If the outputs stay inside the pack buffer, every frame can be counted by an `int`. -/
theorem SMPParser.lt_of_packAll {p : SMPParser} {stream : List UInt8}
    (hbuf : p.packDataBuf.length < 2 ^ 32) (hlen : ∀ a ∈ args, a.bytes.length < 2 ^ 31)
    (hpack : p.packAll args = some stream) : ∀ a ∈ args, 17 + a.bytes.length < 2 ^ 31 := by
  induction args generalizing p stream with
  | nil => simp
  | cons a args ih =>
    have ha := hlen a (by simp)
    by_cases hlarge : 2 ^ 31 ≤ 17 + a.bytes.length
    · rw [packAll, p.pack_of_le (by omega) hlarge (by omega)] at hpack
      exact absurd hpack (by simp)
    · rw [packAll, p.pack_of_lt (by omega), Option.bind_some] at hpack
      obtain ⟨rest, hrest, -⟩ := Option.map_eq_some_iff.mp hpack
      have htail := ih (packDataBuf_pack_lt hbuf ha) (fun b hb => hlen b (by simp [hb])) hrest
      intro b hb
      rcases List.mem_cons.mp hb with rfl | hb
      · omega
      · exact htail b hb

/-- The outputs of packing the packets, cut into any non-empty chunks and fed to a new
parser, deliver the packets complete in the bytes fed so far, and the whole stream
delivers all of them and leaves the parser at a frame boundary. -/
def RecoveredFromChunks (streamId : UInt32) (args : List PackArgs) : Prop :=
  ∃ stream, (SMPParser.create streamId).packAll args = some stream ∧
    ∀ chunks : List (List UInt8), (∀ chunk ∈ chunks, chunk ≠ []) → chunks.flatten <+: stream →
      let result := (SMPParser.create streamId).parseAll chunks
      result.2 =
          completeIn frameOf (args.map (PackArgs.packet streamId)) chunks.flatten.length ∧
        (chunks.flatten = stream →
          result.2 = args.map (PackArgs.packet streamId) ∧
            result.1.parseState = .parseType ∧ result.1.requireDataSize = 17 ∧
            result.1.dataBuf = [])

/-- Frames that an `int` can count are recovered. -/
theorem recovered_of_lt (streamId : UInt32) (hlt : ∀ a ∈ args, 17 + a.bytes.length < 2 ^ 31) :
    RecoveredFromChunks streamId args := by
  have hstream : (args.map (PackArgs.packet streamId)).flatMap frameOf =
      args.flatMap PackArgs.frame := by
    rw [List.flatMap_map]
    rfl
  have hencodes : ∀ m ∈ args.map (PackArgs.packet streamId),
      (frameDecoder streamId).Encodes frameOf m := by
    intro m hm
    obtain ⟨a, ha, rfl⟩ := List.mem_map.mp hm
    have h := hlt a ha
    exact PackArgs.encodes streamId (by omega)
  have hnil := frameDecoder_next_nil streamId
  refine ⟨args.flatMap PackArgs.frame, SMPParser.packAll_of_lt _ hlt, ?_⟩
  intro chunks _ hfront result
  have hstart : (SMPParser.create streamId).Represents streamId
      ((frameDecoder streamId).drain []).2 := by
    rw [Decoder.drain_of_none hnil]
    exact SMPParser.represents_create streamId
  obtain ⟨hrep, hout, hparsed⟩ := SMPParser.parseAll_spec hstart rfl chunks
  have htake : chunks.flatten =
      ((args.map (PackArgs.packet streamId)).flatMap frameOf).take chunks.flatten.length := by
    rw [hstream]
    exact List.prefix_iff_eq_take.mp hfront
  have hdrain := Decoder.drain_take_encoded hencodes hnil chunks.flatten.length
  rw [← htake] at hdrain
  rw [Decoder.drain_of_none hnil, List.nil_append, List.nil_append, hdrain] at hout
  rw [List.nil_append, hdrain] at hrep
  refine ⟨hout, fun hwhole => ?_⟩
  have hle : ((args.map (PackArgs.packet streamId)).flatMap frameOf).length ≤
      chunks.flatten.length := by
    rw [hstream, hwhole]
  rw [remainderIn_of_le frameOf hle] at hrep
  obtain ⟨hstate, hrequire, hunparsed⟩ := hrep.at_boundary
  refine ⟨?_, hstate, hrequire, ?_⟩
  · rw [hout, completeIn_of_le frameOf hle]
  · rw [SMPParser.unparsed, hparsed, List.drop_zero] at hunparsed
    exact hunparsed

/-- Only frames that an `int` can count are recovered. -/
theorem lt_of_recovered (hlen : ∀ a ∈ args, a.bytes.length < 2 ^ 31)
    (h : RecoveredFromChunks streamId args) : ∀ a ∈ args, 17 + a.bytes.length < 2 ^ 31 := by
  obtain ⟨stream, hpack, -⟩ := h
  exact SMPParser.lt_of_packAll (by simp [SMPParser.create]) hlen hpack

/-- Packets with payloads below `2 ^ 31` bytes are recovered from every chunking of their
packed frames exactly when every frame, header included, is below `2 ^ 31` bytes. -/
theorem recovered_iff (streamId : UInt32) (args : List PackArgs)
    (hlen : ∀ a ∈ args, a.bytes.length < 2 ^ 31) :
    RecoveredFromChunks streamId args ↔ ∀ a ∈ args, 17 + a.bytes.length < 2 ^ 31 :=
  ⟨lt_of_recovered hlen, recovered_of_lt streamId⟩

/-- Data written into a new buffer is its payload. -/
theorem PackArgs.bytes_ofBytes {type : UInt8} {timestamp : UInt64} {transId : UInt32}
    {data : List UInt8} (hlt : data.length < 2 ^ 32) :
    (ofBytes type timestamp transId data).bytes = data := by
  have hcontent : (BCBuffer.empty.write data).content = data := by
    rw [BCBuffer.content_write (by simpa [BCBuffer.empty] using hlt), BCBuffer.content_empty,
      List.nil_append]
  have hcur : (BCBuffer.empty.write data).nCurrent = 0 := BCBuffer.nCurrent_write _ _
  rw [bytes, BCBuffer.remaining, ofBytes, hcontent, hcur, List.drop_zero]

/-- A command with the payload `"{}"`, a ping without one and a message of 300 bytes are recovered
from every chunking. -/
theorem recovered_packets :
    RecoveredFromChunks 0 [PackArgs.ofBytes 1 1000 1 [123, 125], PackArgs.ofBytes 4 2000 2 [],
      PackArgs.ofBytes 2 3000 3 (List.replicate 300 7)] := by
  have hle : ∀ a ∈ [PackArgs.ofBytes 1 1000 1 [123, 125], PackArgs.ofBytes 4 2000 2 [],
      PackArgs.ofBytes 2 3000 3 (List.replicate 300 7)], a.bytes.length ≤ 300 := by
    intro a ha
    simp only [List.mem_cons, List.not_mem_nil, or_false] at ha
    rcases ha with rfl | rfl | rfl
    · rw [PackArgs.bytes_ofBytes (by simp)]
      simp
    · rw [PackArgs.bytes_ofBytes (by simp)]
      simp
    · rw [PackArgs.bytes_ofBytes (by rw [List.length_replicate]; omega), List.length_replicate]
  refine (recovered_iff 0 _ fun a ha => ?_).mpr fun a ha => ?_
  · exact (hle a ha).trans_lt (by omega)
  · have hlength := hle a ha
    omega

/-- A message of `2 ^ 31 - 17` zero bytes. -/
def largeMessage : PackArgs := PackArgs.ofBytes 2 0 0 (List.replicate (2 ^ 31 - 17) 0)

/-- The large message is within the range of payloads but is not recovered. -/
theorem not_recovered_largeMessage :
    (∀ a ∈ [largeMessage], a.bytes.length < 2 ^ 31) ∧
      ¬ RecoveredFromChunks 0 [largeMessage] := by
  have hbytes : largeMessage.bytes.length = 2 ^ 31 - 17 := by
    rw [largeMessage, PackArgs.bytes_ofBytes (by rw [List.length_replicate]; omega),
      List.length_replicate]
  have hlen : ∀ a ∈ [largeMessage], a.bytes.length < 2 ^ 31 := by
    intro a ha
    rw [List.mem_singleton.mp ha, hbytes]
    omega
  refine ⟨hlen, fun h => ?_⟩
  have hall := lt_of_recovered hlen h
  have hone := hall _ (List.mem_singleton_self _)
  omega

end SMP
