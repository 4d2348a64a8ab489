import TTSignal.Smp.Packet
import TTSignal.Smp.RoundTrip

/-!
# The two packers

A packet is packed in two places: `PackData` copies the payload through a reader, from the
read cursor on, and `PackPacket` copies it block by block, from the start of the buffer.
Both announce the bytes behind the cursor, so a consumed byte makes `PackPacket` store a
payload longer than the length field in front of it.
-/

namespace SMP

open Bytes BC

variable {a : PackArgs} {streamId : UInt32} {packed : Option BCBuffer}

/-- The packet a caller of `PackPacket` holds for the same fields and payload buffer. -/
def PackArgs.smPacket (a : PackArgs) (streamId : UInt32) (packed : Option BCBuffer) :
    SMPacket where
  type := a.type
  timestamp := a.timestamp
  transId := a.transId
  streamId := streamId
  origionData := a.payload
  packedJmpData := packed

/-- Successive `PackData` calls, which leave their pack buffer behind. -/
def SMPParser.packs (p : SMPParser) (args : List PackArgs) : SMPParser :=
  args.foldl (fun p a => (p.pack a).1) p

/-- `PackPacket` stores the bytes `PackData` hands over, and the length field of the frame
counts the payload bytes behind the header. -/
def PackersAgree (p : SMPParser) (streamId : UInt32) (packed : Option BCBuffer)
    (a : PackArgs) : Prop :=
  (p.pack a).2 = some (a.smPacket streamId packed).packPacket.content ∧
    17 ≤ (a.smPacket streamId packed).packPacket.content.length ∧
    beValue (((a.smPacket streamId packed).packPacket.content.drop 1).take 4) =
      ((a.smPacket streamId packed).packPacket.content.drop 17).length

/-- The payload bytes are those behind the cursor. -/
theorem PackArgs.length_bytes (a : PackArgs) :
    a.bytes.length = a.payload.nUsed - a.payload.nCurrent := by
  rw [bytes, BCBuffer.length_remaining a.cursor_le, BCBuffer.remainingLength_eq a.cursor_le]

/-- `PackPacket` stores the header and all used bytes, modulo the range of the counter. -/
theorem SMPacket.length_packPacket (pkt : SMPacket) :
    pkt.packPacket.content.length = (17 + pkt.origionData.nUsed) % 2 ^ 32 := by
  have hlen : pkt.headerFields.flatten.length = 17 := by simp [headerFields]
  have hinto (dest : BCBuffer) (hzero : dest.nUsed = 0) :
      (pkt.packInto dest).nUsed = (17 + pkt.origionData.nUsed) % 2 ^ 32 := by
    rw [packInto, BCBuffer.nUsed_writeTo_mod, BCBuffer.nUsed_foldl_write_mod, hzero, hlen]
    simp [BCBuffer.refClone]
  rw [BCBuffer.length_content]
  unfold packPacket
  split
  · exact hinto _ rfl
  · exact hinto _ rfl

/-- What `PackData` hands over when a 32-bit counter cannot hold the frame is shorter than
a header. -/
theorem SMPParser.length_pack_lt (p : SMPParser) (hle : 2 ^ 32 ≤ 17 + a.bytes.length)
    {out : List UInt8} (hout : (p.pack a).2 = some out) : out.length < 17 := by
  have hused := a.payload.used_lt
  have hbytes := a.length_bytes
  have hsize : a.payload.remainingLength = a.bytes.length :=
    (BCBuffer.length_remaining a.cursor_le).symm
  have hpacked : packedSize a.bytes.length = (17 + a.bytes.length) % 2 ^ 32 := by
    rw [packedSize]
    exact if_pos (by omega)
  simp only [pack, packData, BCBuffer.refClone, hsize, hpacked, Option.ite_none_right_eq_some,
    Option.some.injEq] at hout
  obtain ⟨-, rfl⟩ := hout
  rw [List.length_take]
  omega

/-- The pack buffer grows to the largest frame only. -/
theorem SMPParser.length_packDataBuf_pack (p : SMPParser) (a : PackArgs) :
    (p.pack a).1.packDataBuf.length ≤ max p.packDataBuf.length (17 + a.bytes.length) := by
  have hsize : a.payload.remainingLength = a.bytes.length :=
    (BCBuffer.length_remaining a.cursor_le).symm
  have hbody := a.written_writeFrom
  rw [hsize] at hbody
  have hmod := Nat.mod_le (17 + a.bytes.length) (2 ^ 32)
  simp only [pack, packData, BCBuffer.refClone, hsize, hbody, Blocks.splice, List.take_zero,
    List.nil_append, Nat.zero_add, List.length_append, length_headerBytes, List.length_drop]
  split
  · rw [List.length_append, List.length_replicate]
    omega
  · omega

/-- After any calls the pack buffer has at most the size of the largest frame. -/
theorem SMPParser.length_packDataBuf_packs {p : SMPParser} (args : List PackArgs)
    (hbuf : p.packDataBuf.length < 2 ^ 33) : (p.packs args).packDataBuf.length < 2 ^ 33 := by
  induction args generalizing p with
  | nil => exact hbuf
  | cons a args ih =>
    have hgrow := p.length_packDataBuf_pack a
    have hused := a.payload.used_lt
    have hbytes := a.length_bytes
    exact ih (p := (p.pack a).1) (by omega)

/-- A buffer read from its start, with a frame that an `int` counts, is packed the same
way by both. -/
theorem packersAgree_of_start (p : SMPParser) (hstart : a.payload.nCurrent = 0)
    (hlt : 17 + a.payload.nUsed < 2 ^ 31) : PackersAgree p streamId packed a := by
  have hbytes : a.bytes = a.payload.content := by
    rw [PackArgs.bytes, BCBuffer.remaining, hstart, List.drop_zero]
  have hlen := a.length_bytes
  have hsize : a.payload.remainingLength = a.bytes.length :=
    (BCBuffer.length_remaining a.cursor_le).symm
  have hcontent : (a.smPacket streamId packed).packPacket.content = a.frame := by
    rw [SMPacket.content_packPacket (by change 17 + a.payload.nUsed < 2 ^ 32; omega),
      PackArgs.frame, hbytes, ← hbytes, ← hsize, hbytes]
    rfl
  have hfield : (a.frame.drop 1).take 4 = beBytes 4 a.bytes.length := by
    have hsplit : a.frame = beBytes 1 a.type.toNat ++ (beBytes 4 a.bytes.length ++
        (beBytes 8 a.timestamp.toNat ++ beBytes 4 a.transId.toNat ++ a.bytes)) := by
      simp only [PackArgs.frame, headerBytes, List.append_assoc]
    rw [hsplit, List.drop_left' (length_beBytes 1 _), List.take_left' (length_beBytes 4 _)]
  refine ⟨?_, ?_, ?_⟩
  · rw [hcontent, p.pack_of_lt (by omega)]
  · rw [hcontent, a.length_frame]
    omega
  · rw [hcontent, hfield, beValue_beBytes, List.length_drop, a.length_frame]
    omega

/-- Only such a buffer is packed the same way by both. -/
theorem start_of_packersAgree {p : SMPParser} (hbuf : p.packDataBuf.length < 2 ^ 33)
    (h : PackersAgree p streamId packed a) :
    a.payload.nCurrent = 0 ∧ 17 + a.payload.nUsed < 2 ^ 31 := by
  obtain ⟨hout, hheader, -⟩ := h
  have hstored := (a.smPacket streamId packed).length_packPacket
  change _ = (17 + a.payload.nUsed) % 2 ^ 32 at hstored
  have hlen := a.length_bytes
  have hused := a.payload.used_lt
  have hcursor := a.cursor_le
  by_cases hlarge : 2 ^ 32 ≤ 17 + a.bytes.length
  · have hshort := p.length_pack_lt hlarge hout
    omega
  · by_cases hint : 2 ^ 31 ≤ 17 + a.bytes.length
    · rw [p.pack_of_le hbuf hint (by omega)] at hout
      exact absurd hout (by simp)
    · rw [p.pack_of_lt (by omega), Option.some.injEq] at hout
      have hframe := a.length_frame
      rw [hout] at hframe
      omega

/-- After any earlier packets, and whatever was packed into the packet's own buffer
before, both packers give the same frame exactly when the payload buffer is read from its
start and the frame is below `2 ^ 31` bytes. -/
theorem packersAgree_iff (parserId : UInt32) (earlier : List PackArgs) (streamId : UInt32)
    (packed : Option BCBuffer) (a : PackArgs) :
    PackersAgree ((SMPParser.create parserId).packs earlier) streamId packed a ↔
      a.payload.nCurrent = 0 ∧ 17 + a.payload.nUsed < 2 ^ 31 := by
  constructor
  · intro h
    exact start_of_packersAgree
      (SMPParser.length_packDataBuf_packs earlier (by simp [SMPParser.create])) h
  · rintro ⟨hstart, hlt⟩
    exact packersAgree_of_start _ hstart hlt

/-- A message of two bytes, the first of which has been read. -/
def consumedMessage : PackArgs where
  type := 2
  timestamp := 0
  transId := 0
  payload := (BCBuffer.empty.write [1, 2]).advance 1
  cursor_le := by
    have hused := BCBuffer.nUsed_write_mod BCBuffer.empty [1, 2]
    change ((BCBuffer.empty.write [1, 2]).nCurrent + 1) % 2 ^ 32 ≤
      (BCBuffer.empty.write [1, 2]).nUsed
    rw [BCBuffer.nCurrent_write, hused]
    decide

/-- The packers disagree on it: `PackPacket` stores two payload bytes behind a length field
of one. -/
theorem not_packersAgree_consumedMessage :
    ¬ PackersAgree (SMPParser.create 0) 0 none consumedMessage := by
  intro h
  have hcursor := (start_of_packersAgree (by simp [SMPParser.create]) h).1
  change ((BCBuffer.empty.write [1, 2]).nCurrent + 1) % 2 ^ 32 = 0 at hcursor
  rw [BCBuffer.nCurrent_write] at hcursor
  exact absurd hcursor (by decide)

end SMP
