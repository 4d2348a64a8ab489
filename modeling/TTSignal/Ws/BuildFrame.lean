import TTSignal.BC.Shared
import TTSignal.Ws.Reassembly

/-!
# Building a frame

`WSParser::BuildFrame` writes the header of a frame and a copy of the payload into a new
buffer and masks the copy in place, block after block. The payload is read through a clone
that shares its blocks with the buffer of the caller. What is built is read by the parser
as the frame it was built from, as long as the counters of the new buffer hold its length.
-/

namespace WS

open BC Blocks Bytes Runs SMP Staged

/-- `INFINITE`. -/
def infinite : ℕ := 0xFFFFFFFF

/-- `WSParser::CalculateFrameHeaderSize`. -/
def calculateFrameHeaderSize (maskData : Bool) (dataLen : ℕ) : ℕ :=
  (if dataLen < 126 then 2
    else if dataLen < 65536 then 4
    else if dataLen < 0xFFFFFFFFFFFFFFFF then 10
    else 0) + if maskData then 4 else 0

/-- The bytes of one block with the mask of their positions. -/
def maskFrom (mask : List UInt8) (idx : ℕ) (data : List UInt8) : List UInt8 :=
  data.mapIdx fun i b => b ^^^ mask.getD ((idx + i) % 4) 0

/-- The loop of `BuildFrame` that masks the copied payload block after block. -/
def maskLoop (mask : List UInt8) : ℕ → Heap → SharedBuffer → ℕ → Heap × SharedBuffer
  | 0, heap, rc, _ => (heap, rc)
  | fuel + 1, heap, rc, idx =>
    let data := rc.readBlock heap infinite
    if data = [] then (heap, rc)
    else
      maskLoop mask fuel (rc.overwrite heap (maskFrom mask idx data))
        (rc.advance (rc.readSize infinite)) (idx + data.length)

/-- The payload from the cursor on is masked in place. -/
def maskPayload (mask : List UInt8) (heap : Heap) (rc : SharedBuffer) : Heap × SharedBuffer :=
  maskLoop mask (rc.remainingLength + 1) heap rc 0

/-- The second byte and the extended length, one write after the other; none for a length
of `0xFFFFFFFFFFFFFFFF`. -/
def lengthParts (hasMask : Bool) (dataLen : ℕ) : Option (List (List UInt8)) :=
  let nByte := (if hasMask then (1 : UInt8) else 0) <<< 7
  if dataLen < 126 then some [[nByte ||| (UInt8.ofNat dataLen &&& 0x7F)]]
  else if dataLen < 65536 then some [[nByte ||| (126 &&& 0x7F)], beBytes 2 dataLen]
  else if dataLen < 0xFFFFFFFFFFFFFFFF then
    some [[nByte ||| (127 &&& 0x7F)], beBytes 8 dataLen]
  else none

/-- The header with random bytes in place of a mask that starts with a zero byte. -/
def randomised (random : List UInt8) (header : WSFrameHeader) : WSFrameHeader :=
  if header.hasMask = true ∧ header.mask.getD 0 0 = 0 then { header with mask := random }
  else header

/-- Writes into a new buffer. -/
def writeParts (heap : Heap) (parts : List (List UInt8)) : Heap × SharedBuffer :=
  parts.foldl (fun w part => w.2.write w.1 part) (heap, SharedBuffer.empty)

/-- The end of `BuildFrame` behind the header: the payload is copied, and masked in place. -/
def copyPayload (header : WSFrameHeader) (w : Heap × SharedBuffer) (buffer : SharedBuffer) :
    Heap × SharedBuffer :=
  let nStartPos := w.2.nUsed
  let r := w.2.writeFrom w.1 buffer buffer.remainingLength
  if header.hasMask then
    let m := maskPayload header.mask r.1 (r.2.1.rewind nStartPos)
    (m.1, m.2.rewind 0)
  else (r.1, r.2.1)

/-- The parts of a frame behind each other: the first byte, the length, the mask and the
payload. -/
def assemble (heap : Heap) (header : WSFrameHeader) (parts : List (List UInt8))
    (buffer : SharedBuffer) : Heap × SharedBuffer :=
  let first : List UInt8 := [((1 : UInt8) <<< 7) ||| (header.opcode &&& 0x0F)]
  let key := if header.hasMask then [header.mask] else []
  copyPayload header (writeParts heap (first :: (parts ++ key))) buffer

/-- `BuildFrame`, with the bytes that `RAND_bytes` gives; `none` is the null pointer. The
header keeps a mask that was put in. -/
def buildFrame (random : List UInt8) (heap : Heap) (header : WSFrameHeader)
    (pData : SharedBuffer) : Option (Heap × WSFrameHeader × SharedBuffer) :=
  let buffer := pData.refClone
  let header := randomised random header
  (lengthParts header.hasMask buffer.remainingLength).map fun parts =>
    let built := assemble heap header parts buffer
    (built.1, header, built.2)

section Mask

variable {heap : Heap} {b c : SharedBuffer} {v w : BCBuffer} {mask data : List UInt8}

/-- Masking keeps the length. -/
@[simp] theorem length_maskFrom (idx : ℕ) : (maskFrom mask idx data).length = data.length := by
  simp [maskFrom]

/-- From the first position on the mask is applied. -/
theorem maskFrom_zero : maskFrom mask 0 data = applyMask mask data := by
  simp [maskFrom, applyMask]

/-- Masking goes on behind a first part. -/
theorem maskFrom_append (idx : ℕ) (first second : List UInt8) :
    maskFrom mask idx (first ++ second) =
      maskFrom mask idx first ++ maskFrom mask (idx + first.length) second := by
  simp only [maskFrom, List.mapIdx_append, List.append_cancel_left_eq]
  congr 1
  funext i b
  rw [Nat.add_comm i, Nat.add_assoc]

/-- The loop with enough fuel masks everything behind the cursor, and the other buffer shows
what it showed. -/
theorem apart_maskLoop {fuel : ℕ} (idx : ℕ) (h : Apart heap b v c w) (hcur : v.nCurrent ≤ v.nUsed)
    (hfuel : v.remaining.length < fuel) :
    ∃ v', Apart (maskLoop mask fuel heap b idx).1 (maskLoop mask fuel heap b idx).2 v' c w ∧
      v'.nUsed = v.nUsed ∧
        v'.content = v.content.take v.nCurrent ++ maskFrom mask idx v.remaining := by
  induction fuel generalizing heap b v idx with
  | zero => omega
  | succ fuel ih =>
    have hdata := h.left.readBlock_eq infinite
    have hused := v.used_lt
    have hle := v.used_le
    have hlength := BCBuffer.length_remaining hcur
    have hremaining := BCBuffer.remainingLength_eq hcur
    have hpart := BCBuffer.peekBlock_eq (n := infinite) hcur
    have hsize : b.readSize infinite = (v.peekBlock infinite).length := by
      rw [hpart, List.length_take, SharedBuffer.readSize, h.left.remainingLength_eq,
        h.left.current_eq, ← hlength]
      omega
    rw [maskLoop, hdata, hsize]
    by_cases hnil : v.peekBlock infinite = []
    · have hempty : v.remaining = [] := by
        have hstop := BCBuffer.readBlock_eq_nil (n := infinite) hcur
        rw [BCBuffer.readBlock_eq hcur] at hstop
        exact (hstop.mp hnil).resolve_left (by decide)
      have hend : v.nCurrent = v.nUsed := by
        rw [hempty, List.length_nil] at hlength
        omega
      rw [if_pos hnil]
      refine ⟨v, h, rfl, ?_⟩
      rw [hempty, hend, List.take_of_length_le (BCBuffer.length_content v).le]
      simp [maskFrom]
    · rw [if_neg hnil]
      have hpos := List.length_pos_iff.mpr hnil
      have hbegins : v.peekBlock infinite <+: v.remaining := by
        rw [hpart]
        exact List.take_prefix _ _
      have hshort : (v.peekBlock infinite).length ≤ 8192 - v.nCurrent % 8192 := by
        rw [hpart, List.length_take]
        omega
      have hmod := Nat.mod_lt v.nCurrent (show 0 < 8192 by norm_num)
      have hrest := hbegins.length_le
      obtain ⟨tail, htail⟩ := hbegins
      generalize v.peekBlock infinite = data at *
      have hfit : v.nCurrent % 8192 + (maskFrom mask idx data).length ≤ 8192 := by
        rw [length_maskFrom]
        omega
      have hindex : v.nCurrent / 8192 < v.lstData.length := by omega
      have hover := h.overwrite hfit hindex
      have hcontent := BCBuffer.content_overwrite hfit
        (by rw [length_maskFrom]; omega) (by rw [length_maskFrom]; omega)
      rw [length_maskFrom, ← List.append_assoc] at hcontent
      set masked := v.overwrite (maskFrom mask idx data) hfit with hmasked
      have hfields : masked.nUsed = v.nUsed ∧ masked.nCurrent = v.nCurrent := ⟨rfl, rfl⟩
      have hfront : (v.content.take v.nCurrent ++ maskFrom mask idx data).length =
          v.nCurrent + data.length := by
        rw [List.length_append, length_maskFrom, List.length_take, BCBuffer.length_content]
        omega
      have hcursor : (masked.advance data.length).nCurrent = v.nCurrent + data.length :=
        Nat.mod_eq_of_lt (by omega)
      have hbehind : v.content.drop (v.nCurrent + data.length) = tail := by
        rw [← List.drop_drop]
        change v.remaining.drop data.length = tail
        rw [← htail, List.drop_left]
      have hleft : (masked.advance data.length).remaining = tail := by
        rw [BCBuffer.remaining, hcursor]
        change masked.content.drop _ = tail
        rw [hcontent, ← hfront, List.drop_left, hfront, hbehind]
      have hmoved : Apart (b.overwrite heap (maskFrom mask idx data)) (b.advance data.length)
          (masked.advance data.length) c w :=
        ⟨hover.left.advance data.length, hover.right, hover.disjoint⟩
      have htotal := congrArg List.length htail
      rw [List.length_append] at htotal
      obtain ⟨v', hapart, hused', hcontent'⟩ := ih (idx + data.length) hmoved
        (by rw [hcursor]; change _ ≤ v.nUsed; omega) (by rw [hleft]; omega)
      refine ⟨v', hapart, hused', ?_⟩
      rw [hcontent', hleft, hcursor, ← htail, maskFrom_append, ← List.append_assoc]
      congr 1
      change masked.content.take _ = _
      rw [hcontent, ← hfront, List.take_left]

/-- Masking in place masks everything behind the cursor. -/
theorem apart_maskPayload (mask : List UInt8) (h : Apart heap b v c w)
    (hcur : v.nCurrent ≤ v.nUsed) :
    ∃ v', Apart (maskPayload mask heap b).1 (maskPayload mask heap b).2 v' c w ∧
      v'.nUsed = v.nUsed ∧
        v'.content = v.content.take v.nCurrent ++ applyMask mask v.remaining := by
  have hfuel : v.remaining.length < b.remainingLength + 1 := by
    rw [h.left.remainingLength_eq, BCBuffer.length_remaining hcur]
    exact Nat.lt_succ_self _
  rw [← maskFrom_zero]
  exact apart_maskLoop 0 h hcur hfuel

end Mask

section Build

variable {heap : Heap} {pData : SharedBuffer} {v x : BCBuffer} {w : Heap × SharedBuffer}

/-- The parts of a header are written one after the other into a buffer of its own. -/
theorem writeParts_spec (h : Shows heap pData x) (parts : List (List UInt8))
    (hlt : parts.flatten.length < 2 ^ 32) :
    ∃ v, Apart (writeParts heap parts).1 (writeParts heap parts).2 v pData x ∧
      v.nCurrent = 0 ∧ v.content = parts.flatten := by
  have hfold : ∀ (parts : List (List UInt8)) (w : Heap × SharedBuffer) (v : BCBuffer),
      Apart w.1 w.2 v pData x →
        Apart (parts.foldl (fun w part => w.2.write w.1 part) w).1
            (parts.foldl (fun w part => w.2.write w.1 part) w).2 (parts.foldl BCBuffer.write v)
              pData x ∧
          (parts.foldl BCBuffer.write v).nCurrent = v.nCurrent := by
    intro parts
    induction parts with
    | nil =>
      intro w v hapart
      exact ⟨hapart, rfl⟩
    | cons part parts ih =>
      intro w v hapart
      obtain ⟨hrest, hcursor⟩ := ih _ _ (hapart.write part)
      exact ⟨hrest, hcursor.trans (BCBuffer.nCurrent_write v part)⟩
  have hstart : Apart heap SharedBuffer.empty BCBuffer.empty pData x :=
    ⟨⟨rfl, rfl, rfl, rfl, List.nodup_nil, by simp [SharedBuffer.empty]⟩, h,
      by simp [SharedBuffer.empty]⟩
  obtain ⟨hapart, hcursor⟩ := hfold parts (heap, SharedBuffer.empty) BCBuffer.empty hstart
  refine ⟨_, hapart, hcursor, ?_⟩
  have hzero : BCBuffer.empty.nUsed = 0 := rfl
  rw [BCBuffer.content_foldl_write (by omega), BCBuffer.content_empty, List.nil_append]

/-- The payload is copied behind the header and masked there, and the buffer of the caller
shows what it showed. -/
theorem copyPayload_spec (header : WSFrameHeader) (h : Apart w.1 w.2 v pData x)
    (hzero : v.nCurrent = 0) (hcur : x.nCurrent ≤ x.nUsed) :
    ∃ heap' rc v', copyPayload header w pData = (heap', rc) ∧ Apart heap' rc v' pData x ∧
      v'.nCurrent = 0 ∧ v'.nUsed = (v.nUsed + x.remaining.length) % 2 ^ 32 ∧
        (v.nUsed + x.remaining.length < 2 ^ 32 → v'.content =
          v.content ++ if header.hasMask then applyMask header.mask x.remaining
            else x.remaining) := by
  have hlength : pData.remainingLength = x.remaining.length := by
    rw [h.right.remainingLength_eq, BCBuffer.length_remaining hcur]
  have henough : x.remaining.length < x.remaining.length + 1 := Nat.lt_succ_self _
  obtain ⟨v₁, hcopied, hcursor, hused, hcontent⟩ := h.writeFromLoop hcur le_rfl henough
  rw [List.take_length] at hcontent
  rw [copyPayload, SharedBuffer.writeFrom, hlength]
  generalize SharedBuffer.writeFromLoop (x.remaining.length + 1) w.1 w.2 pData
    x.remaining.length = r at hcopied ⊢
  cases hmask : header.hasMask with
  | false =>
    refine ⟨r.1, r.2.1, v₁, rfl, hcopied, hcursor.trans hzero, hused, hcontent⟩
  | true =>
    -- the cursor goes to the start of the copy, or to the end if the counter has wrapped
    have hrewound := hcopied.rewind w.2.nUsed
    have hcur' := BCBuffer.nCurrent_rewind_le v₁ w.2.nUsed
    obtain ⟨v₂, hmasked, hused₂, hcontent₂⟩ := apart_maskPayload header.mask hrewound hcur'
    refine ⟨_, _, v₂.rewind 0, rfl, hmasked.rewind 0, Nat.zero_min _, hused₂.trans hused, ?_⟩
    intro hlt
    have hsum : v₁.nUsed = v.nUsed + x.remaining.length := by
      rw [hused, Nat.mod_eq_of_lt hlt]
    have hstart : (v₁.rewind w.2.nUsed).nCurrent = v.content.length := by
      rw [BCBuffer.length_content, ← h.left.used_eq]
      apply Nat.min_eq_left
      rw [hsum, h.left.used_eq]
      exact Nat.le_add_right _ _
    rw [BCBuffer.content_rewind, hcontent₂, BCBuffer.remaining, hstart,
      BCBuffer.content_rewind, hcontent hlt, List.take_left, List.drop_left]
    rfl

end Build

/-- The parser is between two frames and no message is open. -/
structure AtBoundary (p : WSParser) : Prop where
  /-- It waits for the first two bytes of a frame. -/
  state_eq : p.parseState = .parseFirst2Bytes
  /-- No byte is waiting. -/
  remaining_eq : p.buffer.remaining = []
  /-- No message is open. -/
  closed : p.inFragment = false

/-- Every parser between two messages whose limit lets the payload pass reads the bytes, in
any chunks, as exactly one frame with this opcode and payload, and is between two messages
again. -/
def ReadsBack (opcode : UInt8) (payload bytes : List UInt8) : Prop :=
  ∀ (nBytes : ℕ) (p : WSParser) (chunks : List (List UInt8)), Reached nBytes .between p →
    AtBoundary p → payload.length ≤ p.maxFrameBytes → chunks.flatten = bytes →
      ∃ header p', run feed ([], .ok p) chunks = ([(header, payload)], .ok p') ∧
        header.opcode = opcode ∧ AtBoundary p'

/-- What `BuildFrame` makes of a payload: as many bytes as `CalculateFrameHeaderSize` says
and the payload has, which are read back as one frame; and the buffer of the caller shows
what it showed. -/
def RoundTrips (random : List UInt8) (heap : Heap) (header : WSFrameHeader)
    (pData : SharedBuffer) (x : BCBuffer) : Prop :=
  ∃ heap' header' rc v, buildFrame random heap header pData = some (heap', header', rc) ∧
    Shows heap' rc v ∧
      v.remaining.length =
        calculateFrameHeaderSize header.hasMask x.remaining.length + x.remaining.length ∧
        Shows heap' pData x ∧ ReadsBack header.opcode x.remaining v.remaining

section RoundTrip

variable {f : WireFrame}

/-- The shortest way to write a length. -/
def formOf (n : ℕ) : LengthForm :=
  if n < 126 then .short else if n < 65536 then .medium else .large

/-- The length can be written in the shortest way. -/
theorem fits_formOf {n : ℕ} (hn : n < 2 ^ 64) : (formOf n).Fits n := by
  unfold formOf
  split
  · assumption
  · split
    · rename_i h
      exact h
    · exact hn

/-- The frame of a payload that is not fragmented passes in front of any other bytes. -/
theorem Passes.single {maxFrameBytes : ℕ} {m : Message} (hmax : maxFrameBytes < 2 ^ 63)
    (h : Idle m) (hfinal : f.isFinal = true) (hcontinue : f.opcode ≠ wsOpContinue)
    (hcontrol : isControl f.opcode = true → f.form = .short)
    (hclose : f.opcode = wsOpClose → f.payload.length ≠ 1)
    (hlength : f.payload.length ≤ maxFrameBytes) :
    ∃ m', m'.inFragment = false ∧
      Passes maxFrameBytes m f.bytes [(f.opcode, true, f.payload.length, f.payload)] m' := by
  cases hkind : isControl f.opcode with
  | true =>
    obtain ⟨m', hsame, hpass⟩ := Passes.control hmax m
      ⟨f, hkind, hfinal, hcontrol hkind, hclose⟩ hlength
    exact ⟨m', hsame.open_eq.trans h.closed, hpass⟩
  | false =>
    have hdata : f.opcode = wsOpText ∨ f.opcode = wsOpBinary := by
      have hall : ∀ opcode ∈ opcodes, opcode ≠ wsOpContinue → isControl opcode = false →
          opcode = wsOpText ∨ opcode = wsOpBinary :=
        List.all_iff_forall_prop.mp (by decide)
      exact hall _ f.opcode_mem hcontinue hkind
    obtain ⟨m', hidle, hpass⟩ := Passes.message hmax h
      ⟨⟨⟨f.opcode, f.opcode_mem⟩, [], hdata⟩, ⟨[], ⟨f.form, f.key, f.payload, f.fits⟩⟩⟩
      ⟨by simpa [DataMessage.payload, joined] using hlength, by simp [Unfinished.controls]⟩
    refine ⟨m', hidle.closed, ?_⟩
    have hframe : (⟨f.form, f.key, f.payload, f.fits⟩ : Piece).frame true
        ⟨f.opcode, f.opcode_mem⟩ = f := by
      rw [← hfinal]
      rfl
    simpa [wire, DataMessage.frames, Unfinished.frames, fragmentFrames, nextOpcode, hframe,
      DataMessage.deliveries, Unfinished.controls, DataMessage.payload, joined] using hpass

/-- The bytes of such a frame are read back. -/
theorem readsBack_bytes (hfinal : f.isFinal = true) (hcontinue : f.opcode ≠ wsOpContinue)
    (hcontrol : isControl f.opcode = true → f.form = .short)
    (hclose : f.opcode = wsOpClose → f.payload.length ≠ 1) (hlt : f.bytes.length < 2 ^ 32) :
    ReadsBack f.opcode f.payload f.bytes := by
  intro nBytes p chunks hreached hboundary hlength hstream
  obtain ⟨hheld, hcursor⟩ := hreached.held
  have hmax := hheld.max_lt
  have hrep := hheld.represents
  rw [hboundary.state_eq, hboundary.remaining_eq] at hrep
  have hidle : Idle p.toMessage :=
    ⟨hboundary.closed, hheld.bounded.frag_eq_nil hboundary.closed⟩
  have hmax' : p.maxFrameBytes < 2 ^ 63 := by omega
  obtain ⟨m', hclosed, frames, hseen, hdrain⟩ :=
    Passes.single hmax' hidle hfinal hcontinue hcontrol hclose hlength
  have hstart : Agrees p.maxFrameBytes ([], .ok p)
      ([], .ok ((.parseFirst2Bytes, p.toMessage), [])) := .ok [] hrep
  have hrest : AtRest ([], .ok p) := by
    intro q hq
    cases hq
    exact hcursor rfl
  have hfits : Meets feed Fits ([], .ok p) chunks := by
    apply hstart.meets hmax hrest
    intro t waiting ht
    cases ht
    rw [hstream, List.length_nil]
    omega
  have hagrees := hstart.run hmax hrest hfits
  have hempty (m : Message) : (machine p.maxFrameBytes).drain (.parseFirst2Bytes, m) [] =
      ([], .ok ((.parseFirst2Bytes, m), [])) := Machine.drain_of_lt (Nat.zero_lt_succ 1)
  have hall := hdrain []
  rw [List.append_nil] at hall
  rw [← hempty, Machine.foldl_resume, List.nil_append, hstream, hall] at hagrees
  simp only [Machine.resume, hempty, List.append_nil] at hagrees
  generalize run feed ([], .ok p) chunks = r at hagrees ⊢
  cases hagrees with
  | ok frames' hafter =>
    rename_i p'
    obtain ⟨frame, rfl⟩ : ∃ frame, frames = [frame] := by
      apply List.length_eq_one_iff.mp
      have hcount := congrArg List.length hseen
      simpa using hcount
    simp only [List.map_cons, List.map_nil, seen, List.cons.injEq, and_true, Prod.mk.injEq] at hseen
    obtain ⟨hopcode, -, -, hpayload⟩ := hseen
    refine ⟨frame.1, p', by rw [← hpayload], hopcode, hafter.state_eq, hafter.remaining_eq, ?_⟩
    have hmessage := hafter.message_eq
    simp only at hmessage
    rw [hmessage]
    exact hclosed

end RoundTrip

section Header

variable {header : WSFrameHeader} {random : List UInt8} {dataLen : ℕ}

/-- Only the mask of the header changes, and it keeps its length. -/
theorem randomised_spec (hrandom : random.length = 4) (hmask : header.mask.length = 4) :
    (randomised random header).hasMask = header.hasMask ∧
      (randomised random header).opcode = header.opcode ∧
        (randomised random header).mask.length = 4 := by
  unfold randomised
  split
  · exact ⟨rfl, rfl, hrandom⟩
  · exact ⟨rfl, rfl, hmask⟩

/-- The bits of the second byte that `BuildFrame` writes. -/
theorem secondByte_eq (hasMask : Bool) {n : ℕ} (hn : n < 128) :
    (if hasMask then (1 : UInt8) else 0) <<< 7 ||| (UInt8.ofNat n &&& 0x7F) =
      (if hasMask then 0x80 else 0) ||| UInt8.ofNat n := by
  have hall : ∀ n : Fin 128, ∀ hasMask : Bool,
      (if hasMask then (1 : UInt8) else 0) <<< 7 ||| (UInt8.ofNat n.1 &&& 0x7F) =
        (if hasMask then 0x80 else 0) ||| UInt8.ofNat n.1 := by
    decide +kernel
  exact hall ⟨n, hn⟩ hasMask

/-- The length is written in the shortest way. -/
theorem lengthParts_eq (hasMask : Bool) (hlt : dataLen < 2 ^ 32) :
    ∃ parts, lengthParts hasMask dataLen = some parts ∧
      parts.flatten = ((if hasMask then 0x80 else 0) |||
        UInt8.ofNat ((formOf dataLen).field dataLen)) :: (formOf dataLen).extended dataLen := by
  unfold lengthParts formOf
  by_cases hshort : dataLen < 126
  · simp only [hshort, if_true]
    exact ⟨_, rfl, by simp [secondByte_eq hasMask (show dataLen < 128 by omega),
      LengthForm.field, LengthForm.extended]⟩
  · by_cases hmedium : dataLen < 65536
    · simp only [hshort, hmedium, if_true, if_false]
      refine ⟨_, rfl, ?_⟩
      simp only [List.flatten_cons, List.flatten_nil, List.append_nil, List.singleton_append,
        LengthForm.field, LengthForm.extended]
      rw [← secondByte_eq hasMask (show 126 < 128 by norm_num)]
      rfl
    · have hlarge : dataLen < 0xFFFFFFFFFFFFFFFF := by omega
      simp only [hshort, hmedium, hlarge, if_true, if_false]
      refine ⟨_, rfl, ?_⟩
      simp only [List.flatten_cons, List.flatten_nil, List.append_nil, List.singleton_append,
        LengthForm.field, LengthForm.extended]
      rw [← secondByte_eq hasMask (show 127 < 128 by norm_num)]
      rfl

/-- The size of a frame header that `CalculateFrameHeaderSize` gives. -/
theorem length_header (hasMask : Bool) (hlt : dataLen < 2 ^ 32) :
    2 + ((formOf dataLen).extended dataLen).length + (if hasMask then 4 else 0) =
      calculateFrameHeaderSize hasMask dataLen := by
  unfold calculateFrameHeaderSize formOf
  by_cases hshort : dataLen < 126
  · simp [hshort, LengthForm.extended]
  · by_cases hmedium : dataLen < 65536
    · simp [hshort, hmedium, LengthForm.extended]
    · have hlarge : dataLen < 0xFFFFFFFFFFFFFFFF := by omega
      simp [hshort, hmedium, hlarge, LengthForm.extended]

end Header

section Spec

variable {heap : Heap} {pData : SharedBuffer} {x : BCBuffer} {random : List UInt8}
  {header : WSFrameHeader}

/-- The opcodes a frame is built with. -/
def builtOpcodes : List UInt8 := [wsOpText, wsOpBinary, wsOpClose, wsOpPing, wsOpPong]

/-- The key of a masked frame. -/
def keyOf (header : WSFrameHeader) (hmask : header.mask.length = 4) : Option Key :=
  if header.hasMask then some ⟨header.mask, hmask⟩ else none

/-- The frame that is built of a payload. -/
def frameOf (header : WSFrameHeader) (hmask : header.mask.length = 4)
    (hopcode : header.opcode ∈ builtOpcodes) (payload : List UInt8)
    (hlength : payload.length < 2 ^ 64) : WireFrame where
  isFinal := true
  opcode := header.opcode
  form := formOf payload.length
  key := keyOf header hmask
  payload := payload
  opcode_mem := by
    have hall : ∀ opcode ∈ builtOpcodes, opcode ∈ opcodes :=
      List.all_iff_forall_prop.mp (by decide)
    exact hall _ hopcode
  fits := fits_formOf hlength

/-- `BuildFrame` writes the frame, as long as the counters of the new buffer hold its
length, and leaves the buffer of the caller as it is. -/
theorem buildFrame_spec (hshows : Shows heap pData x) (hcur : x.nCurrent ≤ x.nUsed)
    (hmask : (randomised random header).mask.length = 4)
    (hopcode : (randomised random header).opcode ∈ builtOpcodes)
    (hfit : calculateFrameHeaderSize (randomised random header).hasMask x.remaining.length +
      x.remaining.length < 2 ^ 32) :
    ∃ heap' rc v, buildFrame random heap header pData =
        some (heap', randomised random header, rc) ∧ Shows heap' rc v ∧ Shows heap' pData x ∧
      ∀ hlength, v.remaining =
        (frameOf (randomised random header) hmask hopcode x.remaining hlength).bytes := by
  have hsmall : x.remaining.length < 2 ^ 32 := by omega
  have hlength : pData.refClone.remainingLength = x.remaining.length := by
    rw [BCBuffer.length_remaining hcur]
    exact hshows.remainingLength_eq
  generalize hh : randomised random header = h at *
  obtain ⟨parts, hparts, hflat⟩ := lengthParts_eq h.hasMask hsmall
  have hsize := length_header h.hasMask hsmall
  set key : List (List UInt8) := if h.hasMask then [h.mask] else [] with hkey
  have hkeyLength : key.flatten.length = if h.hasMask then 4 else 0 := by
    rw [hkey]
    split <;> simp [hmask]
  have hhead : ([((1 : UInt8) <<< 7) ||| (h.opcode &&& 0x0F)] :: (parts ++ key)).flatten.length =
      calculateFrameHeaderSize h.hasMask x.remaining.length := by
    rw [← hsize, List.flatten_cons, List.flatten_append, hflat]
    simp only [List.length_append, List.length_cons, List.length_nil, hkeyLength]
    omega
  obtain ⟨v, hwritten, hzero, hcontent⟩ := writeParts_spec hshows
    ([((1 : UInt8) <<< 7) ||| (h.opcode &&& 0x0F)] :: (parts ++ key)) (by omega)
  have hused : v.nUsed = calculateFrameHeaderSize h.hasMask x.remaining.length := by
    rw [← BCBuffer.length_content, hcontent, hhead]
  obtain ⟨heap', rc, v', hcopy, hapart, hzero', -, hcopied⟩ :=
    copyPayload_spec h hwritten hzero hcur
  refine ⟨heap', rc, v', ?_, hapart.left, hapart.right, fun hlength' => ?_⟩
  · have hassemble : assemble heap h parts pData.refClone = (heap', rc) := hcopy
    rw [buildFrame, hh, hlength, hparts, Option.map_some, hassemble]
  · have hfirst : ((1 : UInt8) <<< 7) ||| (h.opcode &&& 0x0F) = 0x80 ||| h.opcode := by
      have hall : ∀ opcode ∈ builtOpcodes,
          ((1 : UInt8) <<< 7) ||| (opcode &&& 0x0F) = 0x80 ||| opcode :=
        List.all_iff_forall_prop.mp (by decide)
      exact hall _ hopcode
    rw [BCBuffer.remaining, hzero', List.drop_zero, hcopied (by omega), hcontent,
      List.flatten_cons, List.flatten_append, hflat, hfirst, hkey]
    cases hmasked : h.hasMask with
    | false =>
      simp [WireFrame.bytes, WireFrame.firstByte, WireFrame.secondByte, WireFrame.keyBytes,
        WireFrame.payloadBytes, frameOf, keyOf, hmasked]
    | true =>
      simp [WireFrame.bytes, WireFrame.firstByte, WireFrame.secondByte, WireFrame.keyBytes,
        WireFrame.payloadBytes, frameOf, keyOf, hmasked]

/-- No buffer holds `2 ^ 32` bytes, so what round-trips is shorter. -/
theorem lt_of_roundTrips (h : RoundTrips random heap header pData x) :
    calculateFrameHeaderSize header.hasMask x.remaining.length + x.remaining.length < 2 ^ 32 := by
  obtain ⟨heap', header', rc, v, -, -, hlength, -⟩ := h
  have hused := v.used_lt
  rw [← hlength, BCBuffer.remaining, List.length_drop, BCBuffer.length_content]
  omega

/-- For every opcode of a data or control frame, every payload that such a frame may have,
masked with any key or not: what is built has the calculated length, is read back by every
parser between two messages whose limit lets it pass as exactly one frame with the same
opcode and payload, and the buffer of the caller is as before, if and only if header and
payload together are shorter than `2 ^ 32` bytes. -/
theorem roundTrips_iff (hshows : Shows heap pData x) (hcur : x.nCurrent ≤ x.nUsed)
    (hrandom : random.length = 4) (hmask : header.mask.length = 4)
    (hopcode : header.opcode ∈ builtOpcodes)
    (hcontrol : isControl header.opcode = true → x.remaining.length ≤ 125)
    (hclose : header.opcode = wsOpClose → x.remaining.length ≠ 1) :
    RoundTrips random heap header pData x ↔
      calculateFrameHeaderSize header.hasMask x.remaining.length + x.remaining.length <
        2 ^ 32 := by
  refine ⟨lt_of_roundTrips, fun hfit => ?_⟩
  obtain ⟨hhas, hop, hlen⟩ := randomised_spec hrandom hmask
  have hfit' := hfit
  have hopcode' := hopcode
  rw [← hhas] at hfit'
  rw [← hop] at hopcode'
  obtain ⟨heap', rc, v, hbuild, hbuilt, hsame, hbytes⟩ :=
    buildFrame_spec hshows hcur hlen hopcode' hfit'
  have hsmall : x.remaining.length < 2 ^ 64 := by omega
  have hsize := length_header (randomised random header).hasMask
    (show x.remaining.length < 2 ^ 32 by omega)
  set f := frameOf (randomised random header) hlen hopcode' x.remaining hsmall with hf
  have hlength : f.bytes.length = calculateFrameHeaderSize header.hasMask x.remaining.length +
      x.remaining.length := by
    have hkey : f.keyBytes.length = if (randomised random header).hasMask then 4 else 0 := by
      simp only [hf, WireFrame.keyBytes, frameOf, keyOf]
      cases (randomised random header).hasMask <;> simp [hlen]
    have hpayload : f.payloadBytes.length = x.remaining.length := f.length_payloadBytes
    have hextended : (f.form.extended f.payload.length).length =
        ((formOf x.remaining.length).extended x.remaining.length).length := rfl
    rw [← hhas, ← hsize, WireFrame.bytes]
    simp only [List.length_cons, List.length_append, hkey, hpayload, hextended]
    omega
  refine ⟨heap', _, rc, v, hbuild, hbuilt, ?_, hsame, ?_⟩
  · rw [hbytes hsmall, hlength]
  · rw [hbytes hsmall]
    have hopf : f.opcode = header.opcode := hop
    have hback : ReadsBack f.opcode f.payload f.bytes := by
      apply readsBack_bytes rfl
      · have hall : ∀ opcode ∈ builtOpcodes, opcode ≠ wsOpContinue :=
          List.all_iff_forall_prop.mp (by decide)
        exact hall _ hopcode'
      · intro hkind
        rw [hopf] at hkind
        have hle := hcontrol hkind
        change formOf x.remaining.length = .short
        rw [formOf, if_pos (by omega)]
      · intro hkind
        rw [hopf] at hkind
        exact hclose hkind
      · rw [hlength]
        exact hfit
    rw [hopf] at hback
    exact hback

end Spec

/-- A heap of two blocks. -/
def twoBlockHeap : Heap := ⟨fun address => List.replicate 8192 (65 + UInt8.ofNat address), 2⟩

/-- A buffer of both blocks that has been read up to its fourth byte. -/
def twoBlockPayload : SharedBuffer := ⟨[0, 1], 16384, 8492, 3⟩

/-- The blocks it shows. -/
def twoBlockBuffer : BCBuffer where
  lstData := [List.replicate 8192 65, List.replicate 8192 66]
  nSize := 16384
  nUsed := 8492
  nCurrent := 3
  length_block := by
    intro block hblock
    rcases List.mem_pair.mp hblock with rfl | rfl
    · exact List.length_replicate
    · exact List.length_replicate
  size_eq := by norm_num
  used_lt := by norm_num
  used_le := by norm_num

/-- A masked text frame of 8489 bytes from two blocks, whose mask has to be put in. -/
theorem roundTrips_twoBlocks :
    RoundTrips [1, 2, 3, 4] twoBlockHeap ⟨true, wsOpText, true, [0, 0, 0, 0], 0⟩
      twoBlockPayload twoBlockBuffer := by
  have hlength : twoBlockBuffer.remaining.length = 8489 := by
    rw [BCBuffer.remaining, List.length_drop, BCBuffer.length_content]
    rfl
  have hshows : Shows twoBlockHeap twoBlockPayload twoBlockBuffer :=
    ⟨rfl, rfl, rfl, rfl, by simp [twoBlockPayload], show ∀ a ∈ [0, 1], a < 2 by decide⟩
  refine (roundTrips_iff hshows (by decide) rfl rfl (by decide) (by decide) (by decide)).mpr ?_
  rw [hlength]
  decide

/-- A heap of `2 ^ 19` blocks. -/
def largeHeap : Heap := ⟨fun _ => newBlock, 2 ^ 19⟩

/-- The buffer of all these blocks, of which one byte is not used. -/
def largePayload : SharedBuffer := ⟨List.range (2 ^ 19), 0, 2 ^ 32 - 1, 0⟩

/-- The large buffer with its blocks. -/
def largeBuffer : BCBuffer where
  lstData := List.replicate (2 ^ 19) newBlock
  nSize := 0
  nUsed := 2 ^ 32 - 1
  nCurrent := 0
  length_block := by
    intro block hblock
    rw [List.eq_of_mem_replicate hblock, length_newBlock]
  size_eq := by rw [List.length_replicate]; norm_num
  used_lt := by norm_num
  used_le := by rw [List.length_replicate]; norm_num

/-- The frame of a payload of `2 ^ 32 - 1` bytes, which the largest limit lets pass, does not
have the calculated length. -/
theorem not_roundTrips_large :
    Shows largeHeap largePayload largeBuffer ∧
      largeBuffer.remaining.length ≤ (WSParser.create.setMaxFrameBytes (2 ^ 32 - 1)).maxFrameBytes ∧
        ¬RoundTrips [1, 2, 3, 4] largeHeap ⟨true, wsOpBinary, false, [0, 0, 0, 0], 0⟩
          largePayload largeBuffer := by
  have hlength : largeBuffer.remaining.length = 2 ^ 32 - 1 := by
    rw [BCBuffer.remaining, List.length_drop, BCBuffer.length_content]
    rfl
  refine ⟨⟨?_, rfl, rfl, rfl, ?_, ?_⟩, ?_, ?_⟩
  · simp only [largePayload, largeHeap, largeBuffer, List.map_const', List.length_range]
  · simp only [largePayload]
    exact List.nodup_range
  · intro a ha
    simp only [largePayload, List.mem_range] at ha
    exact ha
  · rw [hlength]
    decide
  · intro h
    have hlt := lt_of_roundTrips h
    rw [hlength] at hlt
    revert hlt
    decide

end WS
