import TTSignal.Staged
import TTSignal.Ws.Parser

/-!
# The turns of the WebSocket parser

The parser is a staged parser: each of its states waits for a number of bytes and acts
on them. This file states the staged parser on its own and shows that a turn of the loop
of `ParseWSFrame`, which waits with a counter and reads from a buffer of blocks, does
what the staged parser does with the bytes that are waiting.
-/

namespace WS

open BC SMP Staged

/-- The number of bytes a state waits for. -/
def need : ParseStateE × Message → ℕ
  | (.parseFirst2Bytes, _) => 2
  | (.parsePayloadSize, m) => WSParser.extendedSize m.parsedHeader
  | (.parseMask, _) => 4
  | (.parsePayload, m) => m.parsedHeader.payloadSize

/-- The state behind a complete length. -/
def enter (maxFrameBytes : ℕ) (m : Message) :
    Except BCException ((ParseStateE × Message) × List Frame) :=
  match m.checkSize maxFrameBytes with
  | .error e => .error e
  | .ok () => .ok ((if m.parsedHeader.hasMask then .parseMask else .parsePayload, m), [])

/-- What a state does with the bytes it has waited for. -/
def act (maxFrameBytes : ℕ) :
    ParseStateE × Message → List UInt8 → Except BCException ((ParseStateE × Message) × List Frame)
  | (.parseFirst2Bytes, m), data =>
    match m.withFirst2Bytes data with
    | .error e => .error e
    | .ok m' =>
      if m'.parsedHeader.payloadSize = 126 ∨ m'.parsedHeader.payloadSize = 127 then
        .ok ((.parsePayloadSize, m'), [])
      else enter maxFrameBytes m'
  | (.parsePayloadSize, m), data =>
    match m.withPayloadSize maxFrameBytes data with
    | .error e => .error e
    | .ok m' => enter maxFrameBytes m'
  | (.parseMask, m), data => .ok ((.parsePayload, m.withMask data), [])
  | (.parsePayload, m), data =>
    .ok ((.parseFirst2Bytes, (m.deliverPayload (m.unmasked data)).1),
      (m.deliverPayload (m.unmasked data)).2)

/-- The order in which states follow each other within a frame. -/
def rank (t : ParseStateE × Message) : ℕ :=
  match t.1 with
  | .parseFirst2Bytes => 0
  | .parsePayloadSize => 3
  | .parseMask => 2
  | .parsePayload => 1

/-- Behind a complete length only the mask and the payload are left. -/
theorem enter_eq_ok {maxFrameBytes : ℕ} {m : Message} {t : ParseStateE × Message}
    {out : List Frame} (h : enter maxFrameBytes m = .ok (t, out)) :
    m.checkSize maxFrameBytes = .ok () ∧ out = [] ∧
      t = (if m.parsedHeader.hasMask then .parseMask else .parsePayload, m) := by
  unfold enter at h
  split at h
  · cases h
  · rename_i hcheck
    cases h
    exact ⟨hcheck, rfl, rfl⟩

/-- Behind a complete length the rank is at most that of the mask. -/
theorem rank_enter_le {maxFrameBytes : ℕ} {m : Message} {t : ParseStateE × Message}
    {out : List Frame} (h : enter maxFrameBytes m = .ok (t, out)) : rank t ≤ 2 := by
  obtain ⟨-, -, rfl⟩ := enter_eq_ok h
  unfold rank
  split <;> first | omega | rename_i heq; simp only at heq; split at heq <;> cases heq

/-- The frame parser as a staged parser. -/
def machine (maxFrameBytes : ℕ) : Machine UInt8 (ParseStateE × Message) Frame BCException where
  need := need
  act := act maxFrameBytes
  rank := rank
  rank_lt := by
    rintro ⟨state, m⟩ data t out hneed hact
    cases state with
    | parseFirst2Bytes => simp [need] at hneed
    | parsePayloadSize =>
      simp only [act] at hact
      split at hact
      · cases hact
      · exact Nat.lt_of_le_of_lt (rank_enter_le hact) (Nat.lt_succ_self 2)
    | parseMask => simp [need] at hneed
    | parsePayload =>
      simp only [act] at hact
      cases hact
      exact Nat.zero_lt_one

/-- What is known of a header in a state. -/
def WellFormed (maxFrameBytes : ℕ) : ParseStateE × Message → Prop
  | (.parseFirst2Bytes, _) => True
  | (.parsePayloadSize, m) =>
    m.parsedHeader.payloadSize = 126 ∨ m.parsedHeader.payloadSize = 127
  | (.parseMask, m) => m.parsedHeader.payloadSize ≤ maxFrameBytes
  | (.parsePayload, m) => m.parsedHeader.payloadSize ≤ maxFrameBytes

/-- The parser is in a state of the staged parser with these bytes waiting. -/
structure Represents (maxFrameBytes : ℕ) (p : WSParser) (t : ParseStateE × Message)
    (waiting : List UInt8) : Prop where
  /-- The states agree. -/
  state_eq : p.parseState = t.1
  /-- The frames and messages agree. -/
  message_eq : p.toMessage = t.2
  /-- The limit is the configured one. -/
  max_eq : p.maxFrameBytes = maxFrameBytes
  /-- The read cursor is inside the buffer. -/
  cursor_le : p.buffer.nCurrent ≤ p.buffer.nUsed
  /-- The bytes behind the read cursor are waiting. -/
  remaining_eq : p.buffer.remaining = waiting
  /-- The counter is the number of bytes the state waits for. -/
  required_eq : p.requireDataSize = need t
  /-- The header fits the state. -/
  wellFormed : WellFormed maxFrameBytes t

/-- The outcomes of a turn and of an action agree. -/
inductive TurnAgrees (maxFrameBytes : ℕ) (waiting : List UInt8) :
    Except BCException (Bool × WSParser × List Frame) →
      Except BCException ((ParseStateE × Message) × List Frame) → Prop where
  /-- Both fail with the same exception. -/
  | error (e : BCException) : TurnAgrees maxFrameBytes waiting (.error e) (.error e)
  /-- Both go on with the same frames. -/
  | ok {again : Bool} {p : WSParser} {t : ParseStateE × Message} {frames : List Frame}
      (hagain : again = decide (p.requireDataSize ≤ p.buffer.remainingLength))
      (h : Represents maxFrameBytes p t waiting) :
      TurnAgrees maxFrameBytes waiting (.ok (again, p, frames)) (.ok (t, frames))

variable {maxFrameBytes : ℕ} {p : WSParser} {t : ParseStateE × Message} {waiting : List UInt8}

/-- Requiring bytes when nothing is required. -/
theorem requireData_of_zero {n : ℕ} (state : ParseStateE) (hzero : p.requireDataSize = 0)
    (hn : n < 2 ^ 32) :
    p.requireData n state =
      (decide (n ≤ p.buffer.remainingLength),
        { p with parseState := state, requireDataSize := n }) := by
  have hmod : n % 2 ^ 32 = n := Nat.mod_eq_of_lt hn
  simp only [WSParser.requireData, hzero, if_true, Nat.zero_add, hmod]

/-- Taking off the counter what it holds leaves nothing. -/
theorem sub32_self (n : ℕ) : sub32 n n = 0 := by
  unfold sub32
  omega

/-- Behind a complete length the parser enters the state the staged parser enters. -/
theorem enterPayloadStage_agrees (hmax : maxFrameBytes < 2 ^ 32)
    (hlimit : p.maxFrameBytes = maxFrameBytes) (hzero : p.requireDataSize = 0)
    (hcur : p.buffer.nCurrent ≤ p.buffer.nUsed) :
    TurnAgrees maxFrameBytes p.buffer.remaining
      (p.enterPayloadStage.map fun r => (r.1, r.2, [])) (enter maxFrameBytes p.toMessage) := by
  subst hlimit
  unfold WSParser.enterPayloadStage enter
  cases hcheck : p.toMessage.checkSize p.maxFrameBytes with
  | error e => exact .error e
  | ok u =>
    have hsize : p.parsedHeader.payloadSize ≤ p.maxFrameBytes := by
      by_contra hgt
      rw [Message.checkSize, if_pos (by omega)] at hcheck
      cases hcheck
    have hmod : p.parsedHeader.payloadSize % 2 ^ 32 = p.parsedHeader.payloadSize :=
      Nat.mod_eq_of_lt (by omega)
    by_cases hmask : p.parsedHeader.hasMask = true
    · simp only [hmask, if_true]
      rw [requireData_of_zero _ hzero (by norm_num)]
      exact .ok rfl ⟨rfl, rfl, rfl, hcur, rfl, rfl, hsize⟩
    · simp only [hmask, hmod, Bool.false_eq_true, if_false]
      rw [requireData_of_zero _ hzero (by omega)]
      exact .ok rfl ⟨rfl, rfl, rfl, hcur, rfl, rfl, hsize⟩

/-- The block loop of `WriteFrom` with enough fuel copies the next remaining bytes. -/
theorem writeFromBufferLoop_spec {fuel n : ℕ} {dest : BCFBOStream} {b : BCBuffer}
    (hcur : b.nCurrent ≤ b.nUsed) (hn : n ≤ b.remaining.length) (hfuel : n < fuel)
    (hroom : dest.written.length + n ≤ dest.nSize) :
    (writeFromBufferLoop fuel dest b n).1.written = dest.written ++ b.remaining.take n ∧
      (writeFromBufferLoop fuel dest b n).2.remaining = b.remaining.drop n ∧
        (writeFromBufferLoop fuel dest b n).2.nCurrent ≤
          (writeFromBufferLoop fuel dest b n).2.nUsed := by
  induction fuel generalizing b dest n with
  | zero => omega
  | succ fuel ih =>
    obtain ⟨hpart, hrest, hcur'⟩ := BCBuffer.readBlock_spec (n := n) hcur
    have hle : (b.readBlock n).1.length ≤ n := by
      rw [hpart, List.length_take]
      omega
    rw [writeFromBufferLoop]
    split
    · rename_i hread
      have hzero : n = 0 := by
        rcases (BCBuffer.readBlock_eq_nil hcur).mp hread with h | h
        · exact h
        · rw [h, List.length_nil] at hn
          omega
      subst hzero
      rw [hrest, hread]
      exact ⟨by simp, by simp, hcur'⟩
    · rename_i hread
      have hpos := List.length_pos_iff.mpr hread
      have hfront : b.remaining.take (b.readBlock n).1.length = (b.readBlock n).1 := by
        rw [hpart, List.length_take, ← List.take_take, List.take_length]
      have hfit : (b.readBlock n).1.take (dest.nSize - dest.written.length) = (b.readBlock n).1 :=
        List.take_of_length_le (by omega)
      have hwrite : (dest.write (b.readBlock n).1).written =
          dest.written ++ (b.readBlock n).1 := by
        rw [BCFBOStream.write, hfit]
      have hsize : (dest.write (b.readBlock n).1).nSize = dest.nSize := rfl
      have hsum : (b.readBlock n).1.length + (n - (b.readBlock n).1.length) = n := by omega
      have hleft : n - (b.readBlock n).1.length ≤ (b.readBlock n).2.remaining.length := by
        rw [hrest, List.length_drop]
        omega
      have hroom' : (dest.write (b.readBlock n).1).written.length +
          (n - (b.readBlock n).1.length) ≤ (dest.write (b.readBlock n).1).nSize := by
        rw [hwrite, hsize, List.length_append]
        omega
      obtain ⟨hwritten, hremaining, hcursor⟩ := ih hcur' hleft (by omega) hroom'
      refine ⟨?_, ?_, hcursor⟩
      · rw [hwritten, hwrite, hrest, List.append_assoc]
        nth_rewrite 1 [← hfront]
        rw [← List.take_add, hsum]
      · rw [hremaining, hrest, List.drop_drop, hsum]

/-- Taking the mask off keeps the length. -/
@[simp] theorem length_unmasked (m : Message) (data : List UInt8) :
    (m.unmasked data).length = data.length := by
  unfold Message.unmasked
  split <;> simp

/-- The counter and the buffer after a read of everything the state waits for. -/
theorem Represents.consumed (h : Represents maxFrameBytes p t waiting)
    (hlen : need t ≤ waiting.length) :
    (p.buffer.read (need t)).1 = waiting.take (need t) ∧
      (p.buffer.read (need t)).2.remaining = waiting.drop (need t) ∧
        (p.buffer.read (need t)).2.nCurrent ≤ (p.buffer.read (need t)).2.nUsed ∧
          sub32 p.requireDataSize (p.buffer.read (need t)).1.length = 0 := by
  have hwait := h.remaining_eq
  obtain ⟨hread, hrest, hcur⟩ :=
    BCBuffer.read_spec (n := need t) h.cursor_le (by rw [hwait]; exact hlen)
  rw [hwait] at hread hrest
  refine ⟨hread, hrest, hcur, ?_⟩
  have hmin : min (need t) waiting.length = need t := by omega
  rw [hread, List.length_take, hmin, h.required_eq, sub32_self]

/-- The turn on the first two bytes. -/
theorem Represents.turn_first2Bytes {m : Message} (hmax : maxFrameBytes < 2 ^ 32)
    (h : Represents maxFrameBytes p (.parseFirst2Bytes, m) waiting) (hlen : 2 ≤ waiting.length) :
    TurnAgrees maxFrameBytes (waiting.drop 2) p.turn
      (act maxFrameBytes (.parseFirst2Bytes, m) (waiting.take 2)) := by
  obtain rfl : p.toMessage = m := h.message_eq
  have hstate : p.parseState = .parseFirst2Bytes := h.state_eq
  obtain ⟨hread, hrest, hcur, hzero⟩ := h.consumed hlen
  simp only [need] at hread hrest hcur hzero
  rw [hread] at hzero
  simp only [WSParser.turn, hstate, WSParser.parseFirst2Bytes, hread, act]
  cases p.toMessage.withFirst2Bytes (waiting.take 2) with
  | error e => exact .error e
  | ok m' =>
    simp only
    set p' := (p.consumed (p.buffer.read 2).2 (waiting.take 2).length).withMessage m'
    have hzero' : p'.requireDataSize = 0 := hzero
    by_cases h126 : m'.parsedHeader.payloadSize = 126
    · have hrequire := requireData_of_zero (n := 2) .parsePayloadSize hzero' (by norm_num)
      rw [if_pos h126, if_pos (Or.inl h126), hrequire]
      refine .ok rfl ⟨rfl, rfl, h.max_eq, hcur, hrest, ?_, Or.inl h126⟩
      simp [need, WSParser.extendedSize, h126]
    · by_cases h127 : m'.parsedHeader.payloadSize = 127
      · have hrequire := requireData_of_zero (n := 8) .parsePayloadSize hzero' (by norm_num)
        rw [if_neg h126, if_pos h127, if_pos (Or.inr h127), hrequire]
        refine .ok rfl ⟨rfl, rfl, h.max_eq, hcur, hrest, ?_, Or.inr h127⟩
        simp [need, WSParser.extendedSize, h127]
      · rw [if_neg h126, if_neg h127, if_neg (by tauto), ← hrest]
        exact enterPayloadStage_agrees (p := p') hmax h.max_eq hzero' hcur

/-- The turn on an extended length. -/
theorem Represents.turn_payloadSize {m : Message} (hmax : maxFrameBytes < 2 ^ 32)
    (h : Represents maxFrameBytes p (.parsePayloadSize, m) waiting)
    (hlen : WSParser.extendedSize m.parsedHeader ≤ waiting.length) :
    TurnAgrees maxFrameBytes (waiting.drop (WSParser.extendedSize m.parsedHeader)) p.turn
      (act maxFrameBytes (.parsePayloadSize, m)
        (waiting.take (WSParser.extendedSize m.parsedHeader))) := by
  obtain rfl : p.toMessage = m := h.message_eq
  have hstate : p.parseState = .parsePayloadSize := h.state_eq
  obtain ⟨hread, hrest, hcur, hzero⟩ := h.consumed hlen
  simp only [need] at hread hrest hcur hzero
  rw [hread] at hzero
  simp only [WSParser.turn, hstate, WSParser.parsePayloadSize, hread, h.max_eq, act]
  cases p.toMessage.withPayloadSize maxFrameBytes
      (waiting.take (WSParser.extendedSize p.parsedHeader)) with
  | error e => exact .error e
  | ok m' =>
    simp only
    rw [← hrest]
    set p' := (p.consumed (p.buffer.read (WSParser.extendedSize p.parsedHeader)).2
      (waiting.take (WSParser.extendedSize p.parsedHeader)).length).withMessage m'
    have hzero' : p'.requireDataSize = 0 := hzero
    exact enterPayloadStage_agrees (p := p') hmax h.max_eq hzero' hcur

/-- The turn on a mask. -/
theorem Represents.turn_mask {m : Message} (hmax : maxFrameBytes < 2 ^ 32)
    (h : Represents maxFrameBytes p (.parseMask, m) waiting) (hlen : 4 ≤ waiting.length) :
    TurnAgrees maxFrameBytes (waiting.drop 4) p.turn
      (act maxFrameBytes (.parseMask, m) (waiting.take 4)) := by
  obtain rfl : p.toMessage = m := h.message_eq
  have hstate : p.parseState = .parseMask := h.state_eq
  have hsize : p.parsedHeader.payloadSize ≤ maxFrameBytes := h.wellFormed
  have hmod : p.parsedHeader.payloadSize % 2 ^ 32 = p.parsedHeader.payloadSize :=
    Nat.mod_eq_of_lt (by omega)
  obtain ⟨hread, hrest, hcur, hzero⟩ := h.consumed hlen
  simp only [need] at hread hrest hcur hzero
  rw [hread] at hzero
  simp only [WSParser.turn, hstate, WSParser.parseMask, hread, hmod, act]
  set p' := (p.consumed (p.buffer.read 4).2 (waiting.take 4).length).withMessage
    (p.toMessage.withMask (waiting.take 4))
  have hzero' : p'.requireDataSize = 0 := hzero
  have hrequire := requireData_of_zero (n := p.parsedHeader.payloadSize) .parsePayload hzero'
    (by omega)
  rw [hrequire]
  exact .ok rfl ⟨rfl, rfl, h.max_eq, hcur, hrest, rfl, hsize⟩

/-- The turn on a payload. -/
theorem Represents.turn_payload {m : Message}
    (h : Represents maxFrameBytes p (.parsePayload, m) waiting)
    (hlen : m.parsedHeader.payloadSize ≤ waiting.length) :
    TurnAgrees maxFrameBytes (waiting.drop m.parsedHeader.payloadSize) p.turn
      (act maxFrameBytes (.parsePayload, m) (waiting.take m.parsedHeader.payloadSize)) := by
  obtain rfl : p.toMessage = m := h.message_eq
  have hstate : p.parseState = .parsePayload := h.state_eq
  have hsize : p.parsedHeader.payloadSize ≤ maxFrameBytes := h.wellFormed
  have hrequired : p.requireDataSize = p.parsedHeader.payloadSize := h.required_eq
  simp only [WSParser.turn, hstate, WSParser.parsePayload, act]
  rw [if_neg (by omega)]
  by_cases hempty : p.parsedHeader.payloadSize = 0
  · have hnil : p.toMessage.unmasked [] = [] := by
      apply List.length_eq_zero_iff.mp
      simp
    set p' := p.withMessage (p.toMessage.deliverPayload []).1
    have hzero' : p'.requireDataSize = 0 := hrequired.trans hempty
    have hrequire := requireData_of_zero (n := 2) .parseFirst2Bytes hzero' (by norm_num)
    simp only [hempty, if_true, List.take_zero, List.drop_zero, hnil, hrequire]
    exact .ok rfl ⟨rfl, rfl, h.max_eq, h.cursor_le, h.remaining_eq, rfl, trivial⟩
  · have hall : p.parsedHeader.payloadSize ≤ p.buffer.remaining.length := by
      rw [h.remaining_eq]
      exact hlen
    have hroom : (⟨p.parsedHeader.payloadSize, []⟩ : BCFBOStream).written.length +
        p.parsedHeader.payloadSize ≤ p.parsedHeader.payloadSize := by simp
    obtain ⟨hwritten, hrest, hcur⟩ :=
      writeFromBufferLoop_spec h.cursor_le hall (Nat.lt_succ_self _) hroom
    rw [h.remaining_eq] at hwritten hrest
    simp only [List.nil_append] at hwritten
    have hlength : (waiting.take p.parsedHeader.payloadSize).length =
        p.parsedHeader.payloadSize := by
      rw [List.length_take]
      omega
    have htake (flat : List UInt8) :
        (Blocks.splice flat 0 (p.toMessage.unmasked
          (waiting.take p.parsedHeader.payloadSize))).take p.parsedHeader.payloadSize =
            p.toMessage.unmasked (waiting.take p.parsedHeader.payloadSize) := by
      have hsplice := Blocks.take_splice
        (p.toMessage.unmasked (waiting.take p.parsedHeader.payloadSize)) (Nat.zero_le flat.length)
      simpa only [length_unmasked, hlength, Nat.zero_add, List.take_zero, List.nil_append]
        using hsplice
    simp only [hempty, if_false, writeFromBuffer, hwritten, htake, hlength]
    set flat := Blocks.splice _ 0 _
    set b := (writeFromBufferLoop _ _ _ _).2
    set d := p.toMessage.deliverPayload _
    set p' : WSParser := { (p.consumed b p.parsedHeader.payloadSize).withMessage d.1 with
      flatBuffer := flat }
    have hzero' : p'.requireDataSize = 0 := by
      change sub32 p.requireDataSize p.parsedHeader.payloadSize = 0
      rw [hrequired, sub32_self]
    have hrequire := requireData_of_zero (n := 2) .parseFirst2Bytes hzero' (by norm_num)
    rw [hrequire]
    exact .ok rfl ⟨rfl, rfl, h.max_eq, hcur, hrest, rfl, trivial⟩

/-- A turn with enough bytes does what the staged parser does with them. -/
theorem Represents.turn (hmax : maxFrameBytes < 2 ^ 32)
    (h : Represents maxFrameBytes p t waiting) (hlen : need t ≤ waiting.length) :
    TurnAgrees maxFrameBytes (waiting.drop (need t)) p.turn
      (act maxFrameBytes t (waiting.take (need t))) := by
  obtain ⟨state, m⟩ := t
  cases state with
  | parseFirst2Bytes => exact h.turn_first2Bytes hmax hlen
  | parsePayloadSize => exact h.turn_payloadSize hmax hlen
  | parseMask => exact h.turn_mask hmax hlen
  | parsePayload => exact h.turn_payload hlen

end WS
