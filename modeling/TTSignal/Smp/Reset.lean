import TTSignal.Smp.Decoding

/-!
# Resetting a parser in the middle of a packet

`SMPParser::Cleanup` drops both buffers and returns to the state that awaits a header,
but it keeps `require_data_size_`, which `Initialize` does set back. The number is the one
of a new parser only when a header, or a payload as long as a header, was awaited; in
every other state the cleaned parser misses the first frame it is given.
-/

namespace SMP

open Bytes BC Framing

variable {streamId : UInt32} {p : SMPParser} {s : List UInt8}

namespace SMPParser

/-- `Cleanup`. -/
def cleanup (p : SMPParser) : SMPParser :=
  { p with dataBuf := [], bufSize := 0, parsedSize := 0, parseState := .parseType,
           packDataBuf := [] }

/-- The parser after `Parse` calls on a new one represents what the frames left over. -/
theorem represents_parseAll_create (streamId : UInt32) (chunks : List (List UInt8)) :
    ((create streamId).parseAll chunks).1.Represents streamId
        ((frameDecoder streamId).drain chunks.flatten).2 ∧
      ((create streamId).parseAll chunks).2 =
        ((frameDecoder streamId).drain chunks.flatten).1 := by
  have hnil := Decoder.drain_of_none (frameDecoder_next_nil streamId)
  have hstart : (create streamId).Represents streamId ((frameDecoder streamId).drain []).2 := by
    rw [hnil]
    exact represents_create streamId
  obtain ⟨hrep, hout, -⟩ := parseAll_spec hstart rfl chunks
  rw [hnil, List.nil_append, List.nil_append] at hout
  exact ⟨hrep, hout⟩

/-- A parser that represents anything keeps its stream id in the parsed header. -/
theorem Represents.nStreamId (h : p.Represents streamId s) :
    p.parsedHeader.nStreamId = streamId := by
  cases h with
  | header hstate hrequire hid hle hs => exact hid
  | payload read hstate hrequire hread hheader hle hs => rw [hheader, readHeader]

/-- Cleaning a parser that requires as many bytes as a header has makes it a new one. -/
theorem Represents.cleanup (h : p.Represents streamId s) (hrequire : p.requireDataSize = 17) :
    p.cleanup.Represents streamId [] :=
  .header rfl hrequire h.nStreamId le_rfl rfl

/-- Parsers that represent no byte deliver the same packets. -/
theorem parseAll_eq_of_represents_nil {q : SMPParser} (hp : p.Represents streamId [])
    (hq : q.Represents streamId []) (hparsed : p.parsedSize = 0) (hother : q.parsedSize = 0)
    (chunks : List (List UInt8)) : (p.parseAll chunks).2 = (q.parseAll chunks).2 := by
  have hnil := Decoder.drain_of_none (frameDecoder_next_nil streamId)
  have hdrain {r : SMPParser} (hr : r.Represents streamId []) (hzero : r.parsedSize = 0) :
      (r.parseAll chunks).2 = ((frameDecoder streamId).drain chunks.flatten).1 := by
    have hstart : r.Represents streamId ((frameDecoder streamId).drain []).2 := by rwa [hnil]
    obtain ⟨-, hout, -⟩ := parseAll_spec hstart hzero chunks
    rwa [hnil, List.nil_append, List.nil_append] at hout
  rw [hdrain hp hparsed, hdrain hq hother]

/-- The frame without a payload whose other fields are zero. -/
def emptyFrame : List UInt8 := List.replicate 17 0

/-- The empty frame announces no payload. -/
theorem size_emptyFrame (streamId : UInt32) :
    (readHeader streamId emptyFrame).nDataSize.toNat = 0 := by
  change (myUI32BEI (emptyFrame.drop 1)).toNat = 0
  decide

/-- A new parser delivers the empty frame. -/
theorem parseAll_create_emptyFrame (streamId : UInt32) :
    ((create streamId).parseAll [emptyFrame]).2 ≠ [] := by
  have hsize := size_emptyFrame streamId
  have hlen : emptyFrame.length = 17 := List.length_replicate
  have hnext : (frameDecoder streamId).next emptyFrame =
      some ((readHeader streamId emptyFrame, []), []) := by
    change nextFrame streamId emptyFrame = _
    rw [nextFrame_of_le (by omega) (by omega), hsize]
    rfl
  rw [(represents_parseAll_create streamId [emptyFrame]).2, List.flatten_singleton,
    Decoder.drain_of_some hnext]
  exact List.cons_ne_nil _ _

/-- A cleaned parser that requires another number of bytes does not. -/
theorem parseAll_cleanup_emptyFrame (hrequire : p.requireDataSize ≠ 17) :
    (p.cleanup.parseAll [emptyFrame]).2 = [] := by
  set q := p.cleanup.receive emptyFrame with hq
  have hlen : q.dataBuf.length - q.parsedSize = 17 := by
    simp [hq, receive, SMPParser.cleanup, emptyFrame]
  have hrequired : q.requireDataSize = p.requireDataSize := rfl
  have hloop (fuel : ℕ) : (parseLoop (fuel + 1) q).2 = [] := by
    by_cases hwait : q.dataBuf.length - q.parsedSize < q.requireDataSize
    · rw [parseLoop, if_pos hwait]
    · -- fewer than 17 bytes are required, so the subtractions pass below zero
      have hsize : (readHeader q.parsedHeader.nStreamId q.unparsed).nDataSize.toNat = 0 :=
        size_emptyFrame _
      have hgo : q.parseHeader.1 = false := by
        simp only [parseHeader, requireData, hsize, decide_eq_false_iff_not, sub32]
        omega
      rw [parseLoop_header rfl hwait, hgo]
      rfl
  change (p.cleanup.parse emptyFrame).2 ++ [] = []
  rw [List.append_nil]
  exact hloop _

/-- A parser fed any bytes and then cleaned delivers from every further bytes what a new
parser delivers exactly when it required as many bytes as a header has. -/
theorem parseAll_cleanup_iff (streamId : UInt32) (chunks : List (List UInt8)) :
    (∀ further, (((create streamId).parseAll chunks).1.cleanup.parseAll further).2 =
        ((create streamId).parseAll further).2) ↔
      ((create streamId).parseAll chunks).1.requireDataSize = 17 := by
  have hrep := (represents_parseAll_create streamId chunks).1
  constructor
  · intro hsame
    by_contra hother
    have hnone := parseAll_cleanup_emptyFrame hother
    rw [hsame [emptyFrame]] at hnone
    exact parseAll_create_emptyFrame streamId hnone
  · intro hrequire further
    exact parseAll_eq_of_represents_nil (hrep.cleanup hrequire) (represents_create streamId)
      rfl rfl further

/-- A parser cleaned while it awaits one payload byte misses the next empty frame. -/
theorem cleanup_in_payload :
    (((create 0).parseAll [[1, 0, 0, 0, 1, 0, 0, 0, 0, 0, 0, 0, 0, 0, 0, 0, 0]]).1.cleanup.parseAll
        [emptyFrame]).2 ≠ ((create 0).parseAll [emptyFrame]).2 := by
  decide

end SMPParser

end SMP
