import TTSignal.Smp.Parser

/-!
# Packets and the stream transport

`SMPacket` with `SMPParser::PackPacket`, which the client uses to pack a packet into a
buffer of its own, and the interface of `xqc_stream_send` as far as the two send paths
rely on it: a call takes no more bytes than it was offered, or none.
-/

namespace SMP

open Bytes BC

/-- `SMPacket`. -/
structure SMPacket where
  /-- `type`. -/
  type : UInt8
  /-- `timestamp`. -/
  timestamp : UInt64
  /-- `trans_id`. -/
  transId : UInt32
  /-- `stream_id`. -/
  streamId : UInt32
  /-- `origion_data`. -/
  origionData : BCBuffer
  /-- `packed_jmp_data`; `none` is the null pointer. -/
  packedJmpData : Option BCBuffer

/-- The header fields `PackPacket` writes one after the other. -/
def SMPacket.headerFields (pkt : SMPacket) : List (List UInt8) :=
  [beBytes 1 pkt.type.toNat, beBytes 4 pkt.origionData.refClone.remainingLength,
    beBytes 8 pkt.timestamp.toNat, beBytes 4 pkt.transId.toNat]

/-- The buffer `PackPacket` fills: the header fields, then everything the original data
buffer holds, wherever its cursor is. -/
def SMPacket.packInto (pkt : SMPacket) (dest : BCBuffer) : BCBuffer :=
  pkt.origionData.refClone.writeTo (pkt.headerFields.foldl BCBuffer.write dest)

/-- `SMPParser::PackPacket`: a missing pack buffer is allocated, an old one is reset. -/
def SMPacket.packPacket (pkt : SMPacket) : BCBuffer :=
  match pkt.packedJmpData with
  | none => pkt.packInto BCBuffer.empty
  | some old => pkt.packInto old.reset

/-- A freshly packed buffer is read from its start. -/
theorem SMPacket.nCurrent_packPacket (pkt : SMPacket) : pkt.packPacket.nCurrent = 0 := by
  unfold packPacket
  split <;> simp [packInto, headerFields, BCBuffer.empty, BCBuffer.reset]

/-- Packing into an empty destination writes the header and the whole original buffer, as
long as the 32-bit counters hold the sum. -/
theorem SMPacket.content_packInto {pkt : SMPacket} {dest : BCBuffer}
    (hdest : dest.content = []) (hlt : 17 + pkt.origionData.nUsed < 2 ^ 32) :
    (pkt.packInto dest).content =
      headerBytes pkt.type pkt.origionData.remainingLength pkt.timestamp pkt.transId ++
        pkt.origionData.content := by
  have hzero : dest.nUsed = 0 := by rw [← BCBuffer.length_content, hdest, List.length_nil]
  have hlen : pkt.headerFields.flatten.length = 17 := by simp [headerFields]
  have hfit : dest.nUsed + pkt.headerFields.flatten.length < 2 ^ 32 := by omega
  have hheader := BCBuffer.content_foldl_write hfit
  rw [hdest, List.nil_append] at hheader
  have hused : (pkt.headerFields.foldl BCBuffer.write dest).nUsed = 17 := by
    rw [← BCBuffer.length_content, hheader, hlen]
  rw [packInto, BCBuffer.refClone, BCBuffer.content_writeTo (by omega), hheader]
  simp [headerFields, headerBytes, BCBuffer.refClone]

/-- The packed frame of a packet: its header and its data. -/
theorem SMPacket.content_packPacket {pkt : SMPacket}
    (hlt : 17 + pkt.origionData.nUsed < 2 ^ 32) :
    pkt.packPacket.content =
      headerBytes pkt.type pkt.origionData.remainingLength pkt.timestamp pkt.transId ++
        pkt.origionData.content := by
  unfold packPacket
  split
  · exact content_packInto BCBuffer.content_empty hlt
  · exact content_packInto (BCBuffer.content_reset _) hlt

/-- What `xqc_stream_send` returns for each call and each offered string: a byte count, or
a value that is not positive when nothing was taken. -/
structure Transport where
  /-- The result of the call with the given number. -/
  result : ℕ → List UInt8 → ℤ
  /-- No more bytes are taken than were offered. -/
  result_le : ∀ call data, result call data ≤ data.length

/-- The bytes a call takes: a prefix of what it was offered. -/
def Transport.taken (t : Transport) (call : ℕ) (data : List UInt8) : List UInt8 :=
  data.take (t.result call data).toNat

end SMP
