import TTSignal.Framing
import TTSignal.Smp.Parser

/-!
# The parser refines a frame decoder

What an SMP parser is for: taking complete frames off the front of the stream. The
decoder below says this without any parser state. A parser *represents* the bytes of the
stream behind the last delivered packet; every turn of its loop either consumes a header
without changing what it represents, or takes one packet off, so a `Parse` call drains
exactly the complete frames.
-/

namespace SMP

open Bytes BC Framing

variable {streamId : UInt32} {p : SMPParser} {s : List UInt8}

/-- The header depends on the first 17 bytes only. -/
theorem readHeader_append (hlen : 17 ≤ s.length) (t : List UInt8) :
    readHeader streamId (s ++ t) = readHeader streamId s := by
  have h1 : (s ++ t).take 1 = s.take 1 := List.take_append_of_le_length (by omega)
  have hfield (i w : ℕ) (hw : i + w ≤ 17) :
      ((s ++ t).drop i).take w = (s.drop i).take w := by
    rw [List.drop_append_of_le_length (by omega),
      List.take_append_of_le_length (by rw [List.length_drop]; omega)]
  simp only [readHeader, myUI8BEI, myUI32BEI, myUI64BEI, h1, hfield 1 4 (by omega),
    hfield 5 8 (by omega), hfield 13 4 (by omega)]

/-- The first frame of a stream: a header and as many bytes as it announces. -/
def nextFrame (streamId : UInt32) (s : List UInt8) : Option (Parsed × List UInt8) :=
  let size := (readHeader streamId s).nDataSize.toNat
  if s.length < 17 ∨ s.length < 17 + size then none
  else some ((readHeader streamId s, (s.drop 17).take size), s.drop (17 + size))

/-- A complete frame is taken off the front. -/
theorem nextFrame_of_le (hlen : 17 ≤ s.length)
    (hsize : 17 + (readHeader streamId s).nDataSize.toNat ≤ s.length) :
    nextFrame streamId s =
      some ((readHeader streamId s, (s.drop 17).take (readHeader streamId s).nDataSize.toNat),
        s.drop (17 + (readHeader streamId s).nDataSize.toNat)) := by
  have h : ¬ (s.length < 17 ∨ s.length < 17 + (readHeader streamId s).nDataSize.toNat) := by
    omega
  simp only [nextFrame, if_neg h]

/-- An incomplete frame is left alone. -/
theorem nextFrame_of_lt
    (h : s.length < 17 ∨ s.length < 17 + (readHeader streamId s).nDataSize.toNat) :
    nextFrame streamId s = none := by
  simp only [nextFrame, if_pos h]

/-- What a successful look at the front of a stream found. -/
theorem nextFrame_eq_some {m : Parsed} {rest : List UInt8}
    (h : nextFrame streamId s = some (m, rest)) :
    17 ≤ s.length ∧ 17 + (readHeader streamId s).nDataSize.toNat ≤ s.length ∧
      m = (readHeader streamId s, (s.drop 17).take (readHeader streamId s).nDataSize.toNat) ∧
      rest = s.drop (17 + (readHeader streamId s).nDataSize.toNat) := by
  by_cases hshort : s.length < 17 ∨ s.length < 17 + (readHeader streamId s).nDataSize.toNat
  · rw [nextFrame_of_lt hshort] at h
    exact absurd h (by simp)
  · rw [nextFrame_of_le (by omega) (by omega)] at h
    simp only [Option.some.injEq, Prod.mk.injEq] at h
    exact ⟨by omega, by omega, h.1.symm, h.2.symm⟩

/-- The decoder of SMP frames. -/
def frameDecoder (streamId : UInt32) : Decoder UInt8 Parsed where
  next := nextFrame streamId
  shorter := by
    intro s m rest h
    obtain ⟨hlen, hsize, -, rfl⟩ := nextFrame_eq_some h
    rw [List.length_drop]
    omega
  extend := by
    intro s m rest t h
    obtain ⟨hlen, hsize, rfl, rfl⟩ := nextFrame_eq_some h
    have hheader : readHeader streamId (s ++ t) = readHeader streamId s :=
      readHeader_append hlen t
    rw [nextFrame_of_le (by rw [List.length_append]; omega)
      (by rw [hheader, List.length_append]; omega), hheader,
      List.drop_append_of_le_length hlen,
      List.take_append_of_le_length (by rw [List.length_drop]; omega),
      List.drop_append_of_le_length hsize]

/-- Nothing is decoded from no bytes. -/
theorem frameDecoder_next_nil (streamId : UInt32) : (frameDecoder streamId).next [] = none := by
  change nextFrame streamId [] = none
  exact nextFrame_of_lt (Or.inl (by simp))

/-- The parser stands for the bytes `s` behind the last delivered packet: either they are
all unparsed, or their header has been read and the payload is awaited. -/
inductive SMPParser.Represents (streamId : UInt32) (p : SMPParser) (s : List UInt8) : Prop where
  /-- A header is awaited. -/
  | header (hstate : p.parseState = .parseType) (hrequire : p.requireDataSize = 17)
      (hid : p.parsedHeader.nStreamId = streamId) (hle : p.parsedSize ≤ p.dataBuf.length)
      (hs : s = p.unparsed)
  /-- A payload is awaited. -/
  | payload (read : List UInt8) (hstate : p.parseState = .parsePayload)
      (hrequire : p.requireDataSize = p.parsedHeader.nDataSize.toNat)
      (hread : read.length = 17) (hheader : p.parsedHeader = readHeader streamId read)
      (hle : p.parsedSize ≤ p.dataBuf.length) (hs : s = read ++ p.unparsed)

namespace SMPParser

/-- The number of loop turns left is bounded by the unparsed bytes. -/
def turnsLeft (p : SMPParser) : ℕ :=
  2 * (p.dataBuf.length - p.parsedSize) + if p.parseState = .parsePayload then 1 else 0

/-- Reading a header keeps the represented bytes and decides whether to go on. -/
theorem parseHeader_spec (hid : p.parsedHeader.nStreamId = streamId)
    (hrequire : p.requireDataSize = 17) (hle : 17 ≤ p.dataBuf.length - p.parsedSize) :
    p.parseHeader.2.Represents streamId p.unparsed ∧
      p.parseHeader.2.turnsLeft < p.turnsLeft ∧
      (p.parseHeader.1 ↔ p.parseHeader.2.requireDataSize ≤
        p.parseHeader.2.dataBuf.length - p.parseHeader.2.parsedSize) := by
  have hsize := (readHeader streamId p.unparsed).nDataSize.toNat_lt
  have hread : (p.unparsed.take 17).length = 17 := by
    rw [List.length_take, unparsed, List.length_drop]
    omega
  have hheader : readHeader streamId p.unparsed = readHeader streamId (p.unparsed.take 17) := by
    conv_lhs => rw [← List.take_append_drop 17 p.unparsed]
    rw [readHeader_append (by omega)]
  have hzero : sub32 (sub32 (sub32 (sub32 17 1) 4) 8) 4 = 0 := by decide
  have hmod : (0 + (readHeader streamId p.unparsed).nDataSize.toNat) % 2 ^ 32 =
      (readHeader streamId p.unparsed).nDataSize.toNat := by omega
  simp only [parseHeader, requireData, hid, hrequire, hzero, hmod, if_true]
  refine ⟨.payload (p.unparsed.take 17) rfl rfl hread hheader (by simp only; omega) ?_, ?_, ?_⟩
  · simp only [unparsed, List.take_append_drop, ← List.drop_drop]
  · simp only [turnsLeft, if_true]
    omega
  · simp

/-- Reading a payload takes the first frame off the represented bytes. -/
theorem parsePayload_spec {read : List UInt8} (hread : read.length = 17)
    (hheader : p.parsedHeader = readHeader streamId read) (hstate : p.parseState = .parsePayload)
    (hrequire : p.requireDataSize = p.parsedHeader.nDataSize.toNat)
    (hle : p.parsedSize ≤ p.dataBuf.length)
    (hsize : p.parsedHeader.nDataSize.toNat ≤ p.dataBuf.length - p.parsedSize) :
    ∃ rest, nextFrame streamId (read ++ p.unparsed) = some (p.parsePayload.2.2, rest) ∧
      p.parsePayload.2.1.Represents streamId rest ∧
      p.parsePayload.2.1.turnsLeft < p.turnsLeft ∧
      (p.parsePayload.1 ↔ p.parsePayload.2.1.requireDataSize ≤
        p.parsePayload.2.1.dataBuf.length - p.parsePayload.2.1.parsedSize) := by
  have hlt := p.parsedHeader.nDataSize.toNat_lt
  have hunparsed : p.unparsed.length = p.dataBuf.length - p.parsedSize := List.length_drop
  have hfront : readHeader streamId (read ++ p.unparsed) = p.parsedHeader := by
    rw [readHeader_append (by omega), hheader]
  have hzero : sub32 p.parsedHeader.nDataSize.toNat p.parsedHeader.nDataSize.toNat = 0 := by
    rw [sub32]
    omega
  refine ⟨p.unparsed.drop p.parsedHeader.nDataSize.toNat, ?_, ?_⟩
  · rw [nextFrame_of_le (by rw [List.length_append]; omega)
      (by rw [hfront, List.length_append]; omega), hfront, ← hread, List.drop_left,
      List.drop_length_add_append]
    rfl
  · simp only [parsePayload, requireData, hrequire, hzero, if_true]
    refine ⟨.header rfl rfl (by rw [hheader]; rfl) (by simp only; omega) ?_, ?_, ?_⟩
    · simp only [unparsed, List.drop_drop]
    · simp only [turnsLeft, hstate, if_true]
      simp only [reduceCtorEq, if_false]
      omega
    · simp

/-- While more bytes are required than are unparsed, no frame is complete. -/
theorem Represents.next_eq_none (h : p.Represents streamId s)
    (hwait : p.dataBuf.length - p.parsedSize < p.requireDataSize) :
    (frameDecoder streamId).next s = none := by
  have hunparsed : p.unparsed.length = p.dataBuf.length - p.parsedSize := List.length_drop
  cases h with
  | header hstate hrequire hid hle hs =>
    exact nextFrame_of_lt (Or.inl (by rw [hs]; omega))
  | payload read hstate hrequire hread hheader hle hs =>
    have hfront : readHeader streamId s = p.parsedHeader := by
      rw [hs, readHeader_append (by omega), hheader]
    refine nextFrame_of_lt (Or.inr ?_)
    rw [hfront, hs, List.length_append]
    omega

/-- A turn of the loop that reads a header. -/
theorem parseLoop_header {fuel : ℕ} (hstate : p.parseState = .parseType)
    (hready : ¬ p.dataBuf.length - p.parsedSize < p.requireDataSize) :
    parseLoop (fuel + 1) p =
      if p.parseHeader.1 then parseLoop fuel p.parseHeader.2 else (p.parseHeader.2, []) := by
  rw [parseLoop, if_neg hready, hstate]

/-- A turn of the loop that reads a payload. -/
theorem parseLoop_payload {fuel : ℕ} (hstate : p.parseState = .parsePayload)
    (hready : ¬ p.dataBuf.length - p.parsedSize < p.requireDataSize) :
    parseLoop (fuel + 1) p =
      ((if p.parsePayload.1 then parseLoop fuel p.parsePayload.2.1
          else (p.parsePayload.2.1, [])).1,
        p.parsePayload.2.2 :: (if p.parsePayload.1 then parseLoop fuel p.parsePayload.2.1
          else (p.parsePayload.2.1, [])).2) := by
  rw [parseLoop, if_neg hready, hstate]

/-- The loop drains the represented bytes. -/
theorem parseLoop_spec {fuel : ℕ} (h : p.Represents streamId s) (hfuel : p.turnsLeft < fuel) :
    (parseLoop fuel p).1.Represents streamId ((frameDecoder streamId).drain s).2 ∧
      (parseLoop fuel p).2 = ((frameDecoder streamId).drain s).1 := by
  induction fuel generalizing p s with
  | zero => omega
  | succ fuel ih =>
    by_cases hwait : p.dataBuf.length - p.parsedSize < p.requireDataSize
    · rw [Decoder.drain_of_none (h.next_eq_none hwait), parseLoop, if_pos hwait]
      exact ⟨h, rfl⟩
    · cases h with
      | header hstate hrequire hid hle hs =>
        obtain ⟨hrep, hturns, hgo⟩ := parseHeader_spec hid hrequire (by omega)
        rw [← hs] at hrep
        rw [parseLoop_header hstate hwait]
        by_cases hcontinue : p.parseHeader.1 = true
        · rw [if_pos hcontinue]
          exact ih hrep (by omega)
        · rw [if_neg hcontinue, Decoder.drain_of_none (hrep.next_eq_none ?_)]
          · exact ⟨hrep, rfl⟩
          · rw [hgo] at hcontinue
            omega
      | payload read hstate hrequire hread hheader hle hs =>
        obtain ⟨rest, hnext, hrep, hturns, hgo⟩ :=
          parsePayload_spec hread hheader hstate hrequire hle (by omega)
        rw [← hs] at hnext
        rw [parseLoop_payload hstate hwait,
          Decoder.drain_of_some (d := frameDecoder streamId) hnext]
        by_cases hcontinue : p.parsePayload.1 = true
        · obtain ⟨hfinal, hout⟩ := ih hrep (by omega)
          rw [if_pos hcontinue]
          exact ⟨hfinal, by rw [hout]⟩
        · rw [if_neg hcontinue, Decoder.drain_of_none (hrep.next_eq_none ?_)]
          · exact ⟨hrep, rfl⟩
          · rw [hgo] at hcontinue
            omega

/-- Received bytes are represented behind the ones already there. -/
theorem Represents.receive (h : p.Represents streamId s) (data : List UInt8) :
    (p.receive data).Represents streamId (s ++ data) := by
  have hunparsed (hle : p.parsedSize ≤ p.dataBuf.length) :
      (p.receive data).unparsed = p.unparsed ++ data :=
    List.drop_append_of_le_length hle
  have hlen : (p.receive data).dataBuf.length = p.dataBuf.length + data.length :=
    List.length_append
  cases h with
  | header hstate hrequire hid hle hs =>
    exact .header hstate hrequire hid (by rw [hlen]; exact Nat.le_add_right_of_le hle)
      (by rw [hunparsed hle, hs])
  | payload read hstate hrequire hread hheader hle hs =>
    exact .payload read hstate hrequire hread hheader
      (by rw [hlen]; exact Nat.le_add_right_of_le hle)
      (by rw [hunparsed hle, hs, List.append_assoc])

/-- Dropping the consumed bytes keeps the unparsed ones. -/
theorem unparsed_compact (p : SMPParser) : p.compact.unparsed = p.unparsed := by
  unfold compact
  split
  · rename_i h
    simp [unparsed, List.drop_eq_nil_iff.mpr h]
  · split <;> rfl

/-- After `Parse` no consumed byte is buffered. -/
theorem parsedSize_compact (p : SMPParser) : p.compact.parsedSize = 0 := by
  unfold compact
  split
  · rfl
  · split
    · rfl
    · omega

/-- Dropping the consumed bytes does not change what the parser awaits. -/
theorem compact_fields (p : SMPParser) :
    p.compact.parseState = p.parseState ∧ p.compact.requireDataSize = p.requireDataSize ∧
      p.compact.parsedHeader = p.parsedHeader := by
  unfold compact
  split
  · exact ⟨rfl, rfl, rfl⟩
  · split <;> exact ⟨rfl, rfl, rfl⟩

/-- Dropping the consumed bytes keeps the represented ones. -/
theorem Represents.compact (h : p.Represents streamId s) :
    p.compact.Represents streamId s := by
  obtain ⟨hs1, hs2, hs3⟩ := p.compact_fields
  have hle : p.compact.parsedSize ≤ p.compact.dataBuf.length := by
    rw [parsedSize_compact]
    exact Nat.zero_le _
  cases h with
  | header hstate hrequire hid _ hs =>
    exact .header (by rw [hs1, hstate]) (by rw [hs2, hrequire]) (by rw [hs3, hid]) hle
      (by rw [unparsed_compact, hs])
  | payload read hstate hrequire hread hheader _ hs =>
    exact .payload read (by rw [hs1, hstate]) (by rw [hs2, hs3, hrequire]) hread
      (by rw [hs3, hheader]) hle (by rw [unparsed_compact, hs])

/-- One `Parse` call delivers the frames its bytes complete and keeps the rest. -/
theorem parse_spec (h : p.Represents streamId s) (data : List UInt8) :
    (p.parse data).1.Represents streamId ((frameDecoder streamId).drain (s ++ data)).2 ∧
      (p.parse data).2 = ((frameDecoder streamId).drain (s ++ data)).1 ∧
      (p.parse data).1.parsedSize = 0 := by
  have hturns : (p.receive data).turnsLeft < 2 * (p.dataBuf.length + data.length) + 2 := by
    have hlen : (p.receive data).dataBuf.length = p.dataBuf.length + data.length :=
      List.length_append
    rw [turnsLeft, hlen]
    split <;> omega
  obtain ⟨hrep, hout⟩ := parseLoop_spec (h.receive data) hturns
  exact ⟨hrep.compact, hout, parsedSize_compact _⟩

/-- A new parser represents the empty stream. -/
theorem represents_create (streamId : UInt32) : (create streamId).Represents streamId [] :=
  .header rfl rfl rfl le_rfl rfl

/-- A parser that represents no byte awaits a header and has nothing unparsed. -/
theorem Represents.at_boundary (h : p.Represents streamId []) :
    p.parseState = .parseType ∧ p.requireDataSize = 17 ∧ p.unparsed = [] := by
  cases h with
  | header hstate hrequire hid hle hs => exact ⟨hstate, hrequire, hs.symm⟩
  | payload read hstate hrequire hread hheader hle hs =>
    have hlen := congrArg List.length hs
    rw [List.length_append, hread, List.length_nil] at hlen
    omega

/-- Any sequence of `Parse` calls drains the concatenation of their bytes. -/
theorem parseAll_spec {given : List UInt8}
    (h : p.Represents streamId ((frameDecoder streamId).drain given).2)
    (hparsed : p.parsedSize = 0) (chunks : List (List UInt8)) :
    (p.parseAll chunks).1.Represents streamId
        ((frameDecoder streamId).drain (given ++ chunks.flatten)).2 ∧
      ((frameDecoder streamId).drain given).1 ++ (p.parseAll chunks).2 =
        ((frameDecoder streamId).drain (given ++ chunks.flatten)).1 ∧
      (p.parseAll chunks).1.parsedSize = 0 := by
  induction chunks generalizing p given with
  | nil => simpa [parseAll] using ⟨h, hparsed⟩
  | cons chunk chunks ih =>
    obtain ⟨hrep, hout, hcompact⟩ := parse_spec h chunk
    have hdrain := (frameDecoder streamId).drain_append given chunk
    have hnext : (p.parse chunk).1.Represents streamId
        ((frameDecoder streamId).drain (given ++ chunk)).2 := by
      rw [hdrain]
      exact hrep
    obtain ⟨hfinal, hdelivered, hdone⟩ := ih hnext hcompact
    rw [List.flatten_cons, ← List.append_assoc]
    refine ⟨hfinal, ?_, hdone⟩
    rw [← hdelivered, hdrain, parseAll, hout, List.append_assoc]

end SMPParser

end SMP
