import TTSignal.BC.Shared
import TTSignal.Ws.Limits

/-!
# A stream that has broken the rules

When `ParseWSFrame` throws it rewinds the buffer and leaves everything else as it was: the
state, the counter with the bytes it has read taken off, and the fields of the header it has
written. Further data may come before the connection is closed, and the next call goes on
from there. Where an `ASSERT` does not hold the process ends, if the assertions are built in.

Most of these parsers never deliver a frame again. One that refused a length of eight bytes
does: it believes that it has read the length of an empty frame.
-/

namespace WS

open BC Bytes Runs SMP Staged

/-- The bytes of an integer that a read of `n` bytes fills; those that are missing stay zero. -/
def filled (n : ℕ) (data : List UInt8) : List UInt8 :=
  data ++ List.replicate (n - data.length) 0

namespace Message

variable (m : Message)

/-- What `_ParseFirst2Bytes` has written to the header when it throws. -/
def afterFirst2Bytes (data : List UInt8) : Message :=
  let first := data.getD 0 0
  let second := data.getD 1 0
  match m.checkFirstByte first with
  | .error _ => { m with parsedHeader := { m.parsedHeader with isFinal := first &&& 0x80 ≠ 0 } }
  | .ok opcode =>
    { m with
      parsedHeader :=
        { m.parsedHeader with
          isFinal := first &&& 0x80 ≠ 0
          opcode := opcode
          hasMask := second >>> 7 ≠ 0
          payloadSize := (second &&& 0x7F).toNat } }

/-- What `_ParsePayloadSize` has written to the header when it throws. -/
def afterPayloadSize (maxFrameBytes : ℕ) (data : List UInt8) : Message :=
  let size := beValue data
  if m.parsedHeader.payloadSize = 126 then
    { m with parsedHeader := { m.parsedHeader with payloadSize := size } }
  else if m.parsedHeader.payloadSize = 127 then
    if size / 2 ^ 63 ≠ 0 ∨ size > maxFrameBytes then
      { m with parsedHeader := { m.parsedHeader with payloadSize := 0 } }
    else { m with parsedHeader := { m.parsedHeader with payloadSize := size } }
  else m

end Message

instance (p : WSParser) : Decidable (Asserts p) :=
  match hstate : p.parseState with
  | .parseFirst2Bytes =>
    decidable_of_iff (2 ≤ p.requireDataSize) (by simp only [Asserts, hstate])
  | .parsePayloadSize =>
    decidable_of_iff (WSParser.extendedSize p.parsedHeader ≤ p.buffer.remainingLength)
      (by simp only [Asserts, hstate])
  | .parseMask =>
    decidable_of_iff (4 ≤ p.requireDataSize ∧ 4 ≤ p.buffer.remainingLength)
      (by simp only [Asserts, hstate])
  | .parsePayload => decidable_of_iff True (by simp only [Asserts, hstate])

namespace WSParser

variable (p : WSParser)

/-- What `_ParsePayloadSize` reads, which may be short behind an exception. -/
def extendedBytes : List UInt8 :=
  filled (extendedSize p.parsedHeader) (p.buffer.read (extendedSize p.parsedHeader)).1

/-- `_ParsePayloadSize`, also where the buffer holds too little. -/
def parseAnyPayloadSize : Except BCException (Bool × WSParser) :=
  let r := p.buffer.read (extendedSize p.parsedHeader)
  match p.toMessage.withPayloadSize p.maxFrameBytes p.extendedBytes with
  | .error e => .error e
  | .ok m => ((p.consumed r.2 r.1.length).withMessage m).enterPayloadStage

/-- One turn of the loop of `ParseWSFrame`, also behind an exception. -/
def anyTurn : Except BCException (Bool × WSParser × List Frame) :=
  match p.parseState with
  | .parsePayloadSize => p.parseAnyPayloadSize.map fun r => (r.1, r.2, [])
  | _ => p.turn

/-- The parser that a turn leaves when it throws. -/
def left : WSParser :=
  match p.parseState with
  | .parseFirst2Bytes =>
    let r := p.buffer.read 2
    (p.consumed (r.2.rewind 0) r.1.length).withMessage (p.toMessage.afterFirst2Bytes r.1)
  | .parsePayloadSize =>
    let r := p.buffer.read (extendedSize p.parsedHeader)
    (p.consumed (r.2.rewind 0) r.1.length).withMessage
      (p.toMessage.afterPayloadSize p.maxFrameBytes p.extendedBytes)
  | .parseMask => p
  | .parsePayload => { p with buffer := p.buffer.rewind 0 }

/-- `Cleanup`. -/
def cleanup : WSParser :=
  (requireData
    { p with
      buffer := p.buffer.reset
      parseState := .parseFirst2Bytes
      requireDataSize := 0
      flatBuffer := []
      fragBuffer := []
      fragOpcode := 0
      inFragment := false } 2 .parseFirst2Bytes).2

end WSParser

/-- Where the parser of a connection stands. -/
inductive Standing where
  | between
  | turning
  /-- An `ASSERT` did not hold. -/
  | aborted
  deriving DecidableEq

/-- A parser, also behind an exception. -/
structure Life where
  /-- Whether a call is in progress. -/
  standing : Standing
  /-- The parser. -/
  parser : WSParser
  /-- A call has thrown since the constructor or the last `Cleanup`. -/
  thrown : Bool
  /-- The frames that calls begun since then have handed over. -/
  delivered : List Frame

/-- What happens to a parser. -/
inductive Action where
  /-- `ParseWSFrame` is called. -/
  | receive (data : List UInt8)
  /-- The loop takes a turn. -/
  | turn
  /-- The loop ends. -/
  | compact
  /-- `Cleanup` is called. -/
  | cleanup

namespace Life

variable (asserted : Bool) (s : Life)

/-- A turn of the loop, with the assertions built in or not. -/
def turn : Life :=
  if asserted ∧ ¬ Asserts s.parser then { s with standing := .aborted }
  else
    match s.parser.anyTurn with
    | .ok (_, p, frames) =>
      { s with
        parser := p
        delivered := if s.thrown then s.delivered ++ frames else s.delivered }
    | .error _ => { s with standing := .between, parser := s.parser.left, thrown := true }

/-- What an action does, if it can happen now. -/
def step : Action → Life
  | .receive data =>
    if s.standing = .between then
      { s with standing := .turning, parser := s.parser.receive data }
    else s
  | .turn =>
    if s.standing = .turning ∧ s.parser.requireDataSize ≤ s.parser.buffer.remainingLength then
      s.turn asserted
    else s
  | .compact =>
    if s.standing = .turning ∧ s.parser.buffer.remainingLength < s.parser.requireDataSize then
      { s with standing := .between, parser := s.parser.compact }
    else s
  | .cleanup =>
    if s.standing = .between then { s with parser := s.parser.cleanup, thrown := false } else s

/-- A parser with its limit, before anything has come. -/
def initial (nBytes : ℕ) : Life := ⟨.between, WSParser.create.setMaxFrameBytes nBytes, false, []⟩

end Life

/-- The bytes at the read cursor break the rules. -/
def Refuses (p : WSParser) : Prop :=
  ∃ e, act p.maxFrameBytes (p.parseState, p.toMessage)
    (p.buffer.remaining.take (need (p.parseState, p.toMessage))) = .error e

/-- A parser that is never able to deliver a frame after an exception that it throws now: it
waits for a header, and the assertion on the counter is built in or the header is at the front
of the buffer; or it waits for an extended length, which is none that is refused in
`_ParsePayloadSize` itself and none that announces another extended length. -/
def Ends (asserted : Bool) (p : WSParser) : Prop :=
  match p.parseState with
  | .parseFirst2Bytes => asserted = true ∨ p.buffer.nCurrent = 0
  | .parsePayloadSize =>
    beValue p.extendedBytes ≠ 126 ∧ beValue p.extendedBytes ≠ 127 ∧
      (p.parsedHeader.payloadSize = 126 ∨ beValue p.extendedBytes ≤ p.maxFrameBytes)
  | _ => True

/-- The bytes that come, up to an exception and behind it, leave no parser that delivers a
frame again. -/
def Ending (asserted : Bool) (s : Life) : Action → Prop
  | .receive data =>
    s.thrown = true → asserted = false → s.parser.parseState = .parseFirst2Bytes →
      s.parser.buffer.nUsed + data.length < 2 ^ 32
  | .turn => s.thrown = false → Refuses s.parser → Ends asserted s.parser
  | _ => True

/-- A parser that delivers no frame any more. -/
inductive Stuck (asserted : Bool) (p : WSParser) : Prop where
  /-- The next turn does not get past its assertion. -/
  | assertion (hasserted : asserted = true) (hstate : p.parseState = .parseFirst2Bytes)
      (hzero : p.requireDataSize = 0)
  /-- The header at the front of the buffer is refused again and again. -/
  | header (hasserted : asserted = false) (hstate : p.parseState = .parseFirst2Bytes)
      (hcursor : p.buffer.nCurrent = 0) (htwo : 2 ≤ p.buffer.nUsed)
      (hrefused : ∃ e, act p.maxFrameBytes (.parseFirst2Bytes, p.toMessage)
        (p.buffer.content.take 2) = .error e)
  /-- The length is refused again and again, without reading anything. -/
  | length (hstate : p.parseState = .parsePayloadSize) (hzero : p.requireDataSize = 0)
      (h126 : p.parsedHeader.payloadSize ≠ 126) (h127 : p.parsedHeader.payloadSize ≠ 127)
      (hrefused : ∃ e, p.toMessage.checkSize p.maxFrameBytes = .error e)

section Message

variable {m : Message} {maxFrameBytes : ℕ} {data : List UInt8} {e : BCException}

/-- The header alone is written when the first two bytes are refused. -/
theorem Message.afterFirst2Bytes_eq (m : Message) (data : List UInt8) :
    ∃ header, m.afterFirst2Bytes data = { m with parsedHeader := header } := by
  unfold Message.afterFirst2Bytes
  dsimp only
  split
  · exact ⟨_, rfl⟩
  · exact ⟨_, rfl⟩

/-- The tests of a complete length look at the opcode and the length of a header only. -/
theorem Message.checkSize_setHeader (header : WSFrameHeader)
    (hopcode : header.opcode = m.parsedHeader.opcode)
    (hsize : header.payloadSize = m.parsedHeader.payloadSize) :
    Message.checkSize { m with parsedHeader := header } maxFrameBytes =
      m.checkSize maxFrameBytes := by
  simp only [Message.checkSize, hopcode, hsize]

/-- Whether two bytes are refused as a header does not depend on the header before. -/
theorem act_first2Bytes_setHeader (header : WSFrameHeader)
    (h : act maxFrameBytes (.parseFirst2Bytes, m) data = .error e) :
    act maxFrameBytes (.parseFirst2Bytes, { m with parsedHeader := header }) data = .error e := by
  have hfirst (first : UInt8) :
      Message.checkFirstByte { m with parsedHeader := header } first = m.checkFirstByte first := rfl
  simp only [act, Message.withFirst2Bytes, hfirst] at h ⊢
  cases hbyte : m.checkFirstByte (data.getD 0 0) with
  | error e' =>
    rw [hbyte] at h
    exact h
  | ok opcode =>
    simp only [hbyte] at h ⊢
    cases hcontrol : Message.checkControl _ _ _ with
    | error e' =>
      simp only [hcontrol] at h ⊢
      exact h
    | ok u =>
      simp only [hcontrol] at h ⊢
      split at h
      · cases h
      · rename_i hshort
        rw [if_neg hshort]
        unfold enter at h ⊢
        split at h
        · rename_i e' hcheck
          rw [← Message.checkSize_setHeader
            { header with
              isFinal := decide (data.getD 0 0 &&& 0x80 ≠ 0)
              opcode := opcode
              hasMask := decide (data.getD 1 0 >>> 7 ≠ 0)
              payloadSize := (data.getD 1 0 &&& 0x7F).toNat } rfl rfl] at hcheck
          rw [hcheck]
          exact h
        · cases h

end Message

section Turn

variable {p : WSParser} {nBytes : ℕ} {asserted : Bool}

/-- A complete length that is refused makes the function throw. -/
theorem enterPayloadStage_of_error {m : Message} {b : BCBuffer} {n : ℕ} {e : BCException}
    (h : m.checkSize p.maxFrameBytes = .error e) :
    ((p.consumed b n).withMessage m).enterPayloadStage = .error e := by
  have hfields : ((p.consumed b n).withMessage m).toMessage = m ∧
      ((p.consumed b n).withMessage m).maxFrameBytes = p.maxFrameBytes := ⟨rfl, rfl⟩
  rw [WSParser.enterPayloadStage, hfields.1, hfields.2, h]

/-- A header that is refused at the front of the buffer makes the turn throw. -/
theorem turn_of_refused_header (hstate : p.parseState = .parseFirst2Bytes)
    {e : BCException} (hrefused : act p.maxFrameBytes (.parseFirst2Bytes, p.toMessage)
      (p.buffer.read 2).1 = .error e) : p.anyTurn = .error e := by
  simp only [WSParser.anyTurn, WSParser.turn, hstate, WSParser.parseFirst2Bytes]
  simp only [act] at hrefused
  cases hfirst : p.toMessage.withFirst2Bytes (p.buffer.read 2).1 with
  | error e' =>
    rw [hfirst] at hrefused
    cases hrefused
    rfl
  | ok m =>
    simp only [hfirst] at hrefused ⊢
    split at hrefused
    · cases hrefused
    · rename_i hshort
      rw [not_or] at hshort
      rw [if_neg hshort.1, if_neg hshort.2]
      unfold enter at hrefused
      split at hrefused
      · rename_i e' hcheck
        cases hrefused
        rw [enterPayloadStage_of_error hcheck]
        rfl
      · cases hrefused

/-- What a turn on a header leaves when it throws. -/
theorem left_of_first2Bytes (hstate : p.parseState = .parseFirst2Bytes) :
    p.left.parseState = .parseFirst2Bytes ∧ p.left.maxFrameBytes = p.maxFrameBytes ∧
      p.left.requireDataSize = sub32 p.requireDataSize (p.buffer.read 2).1.length ∧
        p.left.buffer = (p.buffer.read 2).2.rewind 0 ∧
          ∃ header, p.left.toMessage = { p.toMessage with parsedHeader := header } := by
  obtain ⟨header, hheader⟩ := p.toMessage.afterFirst2Bytes_eq (p.buffer.read 2).1
  simp only [WSParser.left, hstate]
  exact ⟨hstate, rfl, rfl, rfl, header, hheader⟩

/-- A read and a rewind leave the content where it was. -/
theorem content_read_rewind {b : BCBuffer} (hcursor : b.nCurrent ≤ b.nUsed) (n : ℕ) :
    ((b.read n).2.rewind 0).content = b.content ∧ ((b.read n).2.rewind 0).nCurrent = 0 ∧
      ((b.read n).2.rewind 0).nUsed = b.nUsed := by
  rw [BCBuffer.read_eq hcursor]
  exact ⟨rfl, Nat.zero_min _, rfl⟩

/-- A parser that is stuck at a header throws again and stays stuck. -/
theorem Stuck.header_turn (hstate : p.parseState = .parseFirst2Bytes)
    (hcursor : p.buffer.nCurrent = 0) (htwo : 2 ≤ p.buffer.nUsed)
    {e : BCException} (hrefused : act p.maxFrameBytes (.parseFirst2Bytes, p.toMessage)
      (p.buffer.content.take 2) = .error e) :
    p.anyTurn = .error e ∧ Stuck false p.left := by
  have hle : p.buffer.nCurrent ≤ p.buffer.nUsed := by omega
  have hread : (p.buffer.read 2).1 = p.buffer.content.take 2 := by
    rw [BCBuffer.read_eq hle, BCBuffer.remaining, hcursor, List.drop_zero]
  obtain ⟨hstate', hmax, -, hbuffer, header, hmessage⟩ := left_of_first2Bytes hstate
  obtain ⟨hcontent, hcursor', hused⟩ := content_read_rewind hle 2
  refine ⟨turn_of_refused_header hstate (by rw [hread]; exact hrefused), ?_⟩
  refine .header rfl hstate' (by rw [hbuffer, hcursor']) (by rw [hbuffer, hused]; exact htwo)
    ⟨e, ?_⟩
  rw [hmax, hmessage, hbuffer, hcontent]
  exact act_first2Bytes_setHeader header hrefused

/-- A parser that is stuck at a length throws again and stays stuck. -/
theorem Stuck.length_turn (hstate : p.parseState = .parsePayloadSize)
    (hzero : p.requireDataSize = 0) (h126 : p.parsedHeader.payloadSize ≠ 126)
    (h127 : p.parsedHeader.payloadSize ≠ 127) {e : BCException}
    (hrefused : p.toMessage.checkSize p.maxFrameBytes = .error e) :
    p.anyTurn = .error e ∧ Stuck asserted p.left := by
  have hsize : WSParser.extendedSize p.parsedHeader = 0 := by
    rw [WSParser.extendedSize, if_neg h126, if_neg h127]
  have hread : p.buffer.read 0 = ([], p.buffer) := rfl
  have hbytes : p.toMessage.withPayloadSize p.maxFrameBytes p.extendedBytes = .ok p.toMessage := by
    rw [Message.withPayloadSize, if_neg h126, if_neg h127]
  constructor
  · simp only [WSParser.anyTurn, hstate, WSParser.parseAnyPayloadSize, hbytes, hsize, hread]
    rw [enterPayloadStage_of_error hrefused]
    rfl
  · have hafter : p.toMessage.afterPayloadSize p.maxFrameBytes p.extendedBytes = p.toMessage := by
      rw [Message.afterPayloadSize, if_neg h126, if_neg h127]
    have hleft : p.left =
        (p.consumed (p.buffer.rewind 0) 0).withMessage p.toMessage := by
      simp only [WSParser.left, hstate, hsize, hread, hafter, List.length_nil]
    rw [hleft]
    refine .length hstate ?_ h126 h127 ⟨e, hrefused⟩
    change sub32 p.requireDataSize 0 = 0
    rw [hzero]
    exact sub32_self 0

end Turn

section Keep

variable {p : WSParser} {nBytes : ℕ} {asserted : Bool} {s : Life}

/-- More bytes behind it do not help a parser that is stuck. -/
theorem Stuck.receive (h : Stuck asserted p) {data : List UInt8}
    (hfits : asserted = false → p.parseState = .parseFirst2Bytes →
      p.buffer.nUsed + data.length < 2 ^ 32) : Stuck asserted (p.receive data) := by
  cases h with
  | assertion hasserted hstate hzero => exact .assertion hasserted hstate hzero
  | header hasserted hstate hcursor htwo hrefused =>
    have hlt := hfits hasserted hstate
    have hmod : data.length % 2 ^ 32 = data.length := Nat.mod_eq_of_lt (by omega)
    have hbuffer : (p.receive data).buffer = p.buffer.write data := by
      rw [WSParser.receive, hmod, List.take_length]
    have hfront : (p.receive data).buffer.content.take 2 = p.buffer.content.take 2 := by
      rw [hbuffer, BCBuffer.content_write hlt, List.take_append_of_le_length]
      rw [BCBuffer.length_content]
      exact htwo
    refine .header hasserted hstate ?_ ?_ ?_
    · rw [hbuffer, BCBuffer.nCurrent_write, hcursor]
    · rw [hbuffer, BCBuffer.nUsed_write hlt]
      omega
    · rw [hfront]
      exact hrefused
  | length hstate hzero h126 h127 hrefused => exact .length hstate hzero h126 h127 hrefused

/-- A call that ends without an exception leaves the parser stuck. -/
theorem Stuck.compact (h : Stuck asserted p)
    (hshort : p.buffer.remainingLength < p.requireDataSize) : Stuck asserted p.compact := by
  cases h with
  | assertion hasserted hstate hzero => omega
  | header hasserted hstate hcursor htwo hrefused =>
    have hremaining := BCBuffer.remainingLength_eq (b := p.buffer) (by omega)
    have hsame : p.compact = p := by
      rw [WSParser.compact, if_neg (by omega), BCBuffer.removeConsumed, if_neg (by omega)]
    rw [hsame]
    exact .header hasserted hstate hcursor htwo hrefused
  | length hstate hzero h126 h127 hrefused => omega

/-- A turn of a parser that is stuck aborts, or throws and leaves it stuck. -/
theorem Stuck.turn (h : Stuck asserted s.parser) :
    s.turn asserted = { s with standing := .aborted } ∨
      s.turn asserted = { s with standing := .between, parser := s.parser.left, thrown := true } ∧
        Stuck asserted s.parser.left := by
  by_cases habort : asserted = true ∧ ¬ Asserts s.parser
  · left
    rw [Life.turn, if_pos habort]
  · right
    have hthrows {e : BCException} (herror : s.parser.anyTurn = .error e) : s.turn asserted =
        { s with standing := .between, parser := s.parser.left, thrown := true } := by
      rw [Life.turn, if_neg habort, herror]
    cases h with
    | assertion hasserted hstate hzero =>
      refine absurd ⟨hasserted, ?_⟩ habort
      simp only [Asserts, hstate]
      omega
    | header hasserted hstate hcursor htwo hrefused =>
      obtain ⟨e, hrefused⟩ := hrefused
      obtain ⟨herror, hstuck⟩ := Stuck.header_turn hstate hcursor htwo hrefused
      rw [hasserted]
      rw [hasserted] at hthrows
      exact ⟨hthrows herror, hstuck⟩
    | length hstate hzero h126 h127 hrefused =>
      obtain ⟨e, hrefused⟩ := hrefused
      obtain ⟨herror, hstuck⟩ := Stuck.length_turn hstate hzero h126 h127 hrefused
      exact ⟨hthrows herror, hstuck⟩

/-- With all the bytes that are required an extended length is read in full. -/
theorem Held.extendedBytes_eq (h : Held nBytes p)
    (henough : p.requireDataSize ≤ p.buffer.remainingLength)
    (hstate : p.parseState = .parsePayloadSize) :
    p.extendedBytes = (p.buffer.read (WSParser.extendedSize p.parsedHeader)).1 ∧
      p.extendedBytes = p.buffer.remaining.take (WSParser.extendedSize p.parsedHeader) ∧
        p.extendedBytes.length = WSParser.extendedSize p.parsedHeader ∧
          p.requireDataSize = WSParser.extendedSize p.parsedHeader := by
  have hrequired := h.represents.required_eq
  have hremaining := h.represents.remainingLength_eq
  rw [hstate] at hrequired
  simp only [need] at hrequired
  have hlen : WSParser.extendedSize p.parsedHeader ≤ p.buffer.remaining.length := by omega
  obtain ⟨hread, -⟩ := BCBuffer.read_spec h.represents.cursor_le hlen
  have hsize : (p.buffer.read (WSParser.extendedSize p.parsedHeader)).1.length =
      WSParser.extendedSize p.parsedHeader := by
    rw [hread, List.length_take]
    omega
  have hbytes : p.extendedBytes = (p.buffer.read (WSParser.extendedSize p.parsedHeader)).1 := by
    rw [WSParser.extendedBytes, filled, hsize, Nat.sub_self, List.replicate_zero, List.append_nil]
  exact ⟨hbytes, hbytes.trans hread, by rw [hbytes, hsize], hrequired⟩

/-- With all the bytes that are required the turn is the usual one. -/
theorem Held.anyTurn_eq (h : Held nBytes p)
    (henough : p.requireDataSize ≤ p.buffer.remainingLength) : p.anyTurn = p.turn := by
  cases hstate : p.parseState with
  | parsePayloadSize =>
    obtain ⟨hbytes, -⟩ := h.extendedBytes_eq henough hstate
    have hparse : p.parseAnyPayloadSize = p.parsePayloadSize := by
      rw [WSParser.parseAnyPayloadSize, hbytes]
      rfl
    unfold WSParser.anyTurn WSParser.turn
    rw [hstate]
    exact congrArg (Except.map fun r => (r.1, r.2, [])) hparse
  | parseFirst2Bytes => simp only [WSParser.anyTurn, hstate]
  | parseMask => simp only [WSParser.anyTurn, hstate]
  | parsePayload => simp only [WSParser.anyTurn, hstate]

/-- What a parser waits for is refused exactly when its turn throws. -/
theorem Held.refuses_of_error (h : Held nBytes p)
    (henough : p.requireDataSize ≤ p.buffer.remainingLength) {e : BCException}
    (hturn : p.turn = .error e) :
    act p.maxFrameBytes (p.parseState, p.toMessage)
      (p.buffer.remaining.take (need (p.parseState, p.toMessage))) = .error e := by
  have hlen : need (p.parseState, p.toMessage) ≤ p.buffer.remaining.length := by
    rw [← h.represents.required_eq, ← h.represents.remainingLength_eq]
    exact henough
  have hagrees := h.represents.turn h.max_lt hlen
  rw [hturn] at hagrees
  generalize act _ _ _ = r at hagrees ⊢
  cases hagrees
  rfl

/-- What a parser that keeps the rules leaves when it throws is stuck, unless it waits for a
length that can be taken for another one. -/
theorem Held.stuck_left (h : Held nBytes p)
    (henough : p.requireDataSize ≤ p.buffer.remainingLength) {e : BCException}
    (hturn : p.turn = .error e) (hends : Ends asserted p) : Stuck asserted p.left := by
  have hrefused := h.refuses_of_error henough hturn
  have hrequired := h.represents.required_eq
  have hremaining := h.represents.remainingLength_eq
  have hcursor := h.represents.cursor_le
  cases hstate : p.parseState with
  | parseFirst2Bytes =>
    rw [hstate] at hrequired hrefused
    simp only [Ends, hstate] at hends
    simp only [need] at hrequired hrefused
    obtain ⟨hstate', hmax, hcounter, hbuffer, header, hmessage⟩ := left_of_first2Bytes hstate
    cases hasserted : asserted with
    | true =>
      refine .assertion rfl hstate' ?_
      have hread : (p.buffer.read 2).1.length = 2 := by
        rw [BCBuffer.read_eq hcursor, List.length_take]
        omega
      rw [hcounter, hread, hrequired]
      exact sub32_self 2
    | false =>
      have hzero : p.buffer.nCurrent = 0 := by
        rcases hends with h | h
        · rw [hasserted] at h
          cases h
        · exact h
      have htwo : 2 ≤ p.buffer.nUsed := by
        have hle := BCBuffer.remainingLength_eq hcursor
        omega
      rw [BCBuffer.remaining, hzero, List.drop_zero] at hrefused
      exact (Stuck.header_turn hstate hzero htwo hrefused).2
  | parsePayloadSize =>
    obtain ⟨hread, hbytes, hlength, hcounter⟩ := h.extendedBytes_eq henough hstate
    have hwell := h.represents.wellFormed
    have hmax := h.max_lt
    rw [hstate] at hrefused hwell
    simp only [Ends, hstate] at hends
    obtain ⟨h126, h127, hfits⟩ := hends
    simp only [need, act, ← hbytes] at hrefused
    -- The length itself is not refused, so the frame or the message is too long.
    have hlong (hnot : p.parsedHeader.payloadSize ≠ 126) : p.parsedHeader.payloadSize = 127 ∧
        ¬(beValue p.extendedBytes / 2 ^ 63 ≠ 0 ∨ beValue p.extendedBytes > p.maxFrameBytes) := by
      have hle := hfits.resolve_left hnot
      have hsmall : beValue p.extendedBytes / 2 ^ 63 = 0 := by omega
      exact ⟨hwell.resolve_left hnot, by omega⟩
    have hok : p.toMessage.withPayloadSize p.maxFrameBytes p.extendedBytes =
        .ok (p.toMessage.afterPayloadSize p.maxFrameBytes p.extendedBytes) := by
      unfold Message.withPayloadSize Message.afterPayloadSize
      split
      · rfl
      · rename_i hnot
        rw [if_pos (hlong hnot).1, if_neg (hlong hnot).2, if_pos (hlong hnot).1,
          if_neg (hlong hnot).2]
    have hafter : p.toMessage.afterPayloadSize p.maxFrameBytes p.extendedBytes =
        { p.toMessage with
          parsedHeader := { p.parsedHeader with payloadSize := beValue p.extendedBytes } } := by
      unfold Message.afterPayloadSize
      split
      · rfl
      · rename_i hnot
        rw [if_pos (hlong hnot).1, if_neg (hlong hnot).2]
    rw [hafter] at hok
    rw [hok] at hrefused
    simp only [enter] at hrefused
    split at hrefused
    · rename_i e' hcheck
      have hleft : p.left = (p.consumed ((p.buffer.read
          (WSParser.extendedSize p.parsedHeader)).2.rewind 0) p.extendedBytes.length).withMessage
          { p.toMessage with
            parsedHeader := { p.parsedHeader with payloadSize := beValue p.extendedBytes } } := by
        rw [← hafter]
        simp only [WSParser.left, hstate, ← hread]
      rw [hleft]
      refine .length hstate ?_ h126 h127 ⟨_, hcheck⟩
      change sub32 p.requireDataSize p.extendedBytes.length = 0
      rw [hlength, hcounter]
      exact sub32_self _
    · cases hrefused
  | parseMask =>
    simp only [WSParser.turn, hstate] at hturn
    cases hturn
  | parsePayload =>
    rw [hstate] at hrefused
    cases hrefused

/-- An exception does not touch the limit. -/
@[simp] theorem maxFrameBytes_left (p : WSParser) : p.left.maxFrameBytes = p.maxFrameBytes := by
  unfold WSParser.left
  split <;> rfl

/-- The end of a call does not touch it either. -/
@[simp] theorem maxFrameBytes_compact (p : WSParser) :
    p.compact.maxFrameBytes = p.maxFrameBytes := by
  unfold WSParser.compact
  split <;> rfl

/-- What a run keeps: before an exception the parser keeps the rules, behind one it is stuck. -/
structure Kept (asserted : Bool) (nBytes : ℕ) (s : Life) : Prop where
  /-- The limit is the configured one. -/
  max_eq : s.parser.maxFrameBytes = (WSParser.create.setMaxFrameBytes nBytes).maxFrameBytes
  /-- The parser before an exception. -/
  held : s.thrown = false → Held nBytes s.parser
  /-- Its read cursor between two calls. -/
  rest : s.thrown = false → s.standing = .between → s.parser.buffer.nCurrent = 0
  /-- The parser behind an exception. -/
  stuck : s.thrown = true → Stuck asserted s.parser
  /-- No frame has come behind an exception. -/
  delivered_eq : s.delivered = []

/-- A fresh parser. -/
theorem kept_initial (asserted : Bool) (nBytes : ℕ) :
    Kept asserted nBytes (.initial nBytes) where
  max_eq := rfl
  held _ := (held_fresh nBytes).1
  rest _ _ := (held_fresh nBytes).2
  stuck := by simp [Life.initial]
  delivered_eq := rfl

/-- A parser that has thrown and is stuck. -/
theorem Kept.threw (h : Kept asserted nBytes s) (hstuck : Stuck asserted s.parser.left) :
    Kept asserted nBytes
      { s with standing := .between, parser := s.parser.left, thrown := true } where
  max_eq := by
    rw [maxFrameBytes_left]
    exact h.max_eq
  held := by simp
  rest := by simp
  stuck _ := hstuck
  delivered_eq := h.delivered_eq

/-- Another parser in its place. -/
theorem Kept.setParser (h : Kept asserted nBytes s) {standing : Standing}
    (hmax : p.maxFrameBytes = s.parser.maxFrameBytes)
    (hheld : s.thrown = false → Held nBytes p)
    (hrest : s.thrown = false → standing = .between → p.buffer.nCurrent = 0)
    (hstuck : s.thrown = true → Stuck asserted p) :
    Kept asserted nBytes { s with standing := standing, parser := p } where
  max_eq := hmax.trans h.max_eq
  held := hheld
  rest := hrest
  stuck := hstuck
  delivered_eq := h.delivered_eq

/-- A chunk is kept. -/
theorem Kept.receive (h : Kept asserted nBytes s) {data : List UInt8}
    (hends : Ending asserted s (.receive data)) :
    Kept asserted nBytes (s.step asserted (.receive data)) := by
  rw [Life.step]
  split
  · rename_i hbetween
    apply h.setParser (p := s.parser.receive data) rfl
    · intro hthrown
      exact (h.held hthrown).receive (h.rest hthrown hbetween) data
    · intro _ hstanding
      cases hstanding
    · intro hthrown
      exact (h.stuck hthrown).receive (hends hthrown)
  · exact h

/-- A turn keeps the rules, or leaves a parser that is stuck. -/
theorem Kept.turn (h : Kept asserted nBytes s) (hends : Ending asserted s .turn) :
    Kept asserted nBytes (s.step asserted .turn) := by
  rw [Life.step]
  split
  · rename_i hturning
    obtain ⟨hstanding, henough⟩ := hturning
    cases hthrown : s.thrown with
    | true =>
      rcases (h.stuck hthrown).turn with hturn | ⟨hturn, hstuck⟩
      · rw [hturn]
        refine h.setParser rfl h.held ?_ h.stuck
        intro _ hbetween
        cases hbetween
      · rw [hturn]
        exact h.threw hstuck
    | false =>
      have hheld := h.held hthrown
      have hasserts := hheld.asserts henough
      rw [Life.turn, if_neg (fun h => h.2 hasserts), hheld.anyTurn_eq henough]
      cases hturn : s.parser.turn with
      | error e =>
        have hrefused := hheld.refuses_of_error henough hturn
        exact h.threw (hheld.stuck_left henough hturn (hends hthrown ⟨e, hrefused⟩))
      | ok next =>
        obtain ⟨again, p, frames⟩ := next
        have hnext := hheld.turn henough hturn
        simp only [hthrown, Bool.false_eq_true, if_false]
        rw [← hthrown]
        apply h.setParser (hnext.max_eq.trans h.max_eq.symm) fun _ => hnext
        · intro _ hbetween
          rw [hstanding] at hbetween
          cases hbetween
        · intro hthrown'
          rw [hthrown] at hthrown'
          cases hthrown'
  · exact h

/-- The end of a call without an exception. -/
theorem Kept.compact (h : Kept asserted nBytes s) :
    Kept asserted nBytes (s.step asserted .compact) := by
  rw [Life.step]
  split
  · rename_i hturning
    apply h.setParser (maxFrameBytes_compact s.parser)
    · intro hthrown
      exact (h.held hthrown).compact.1
    · intro hthrown _
      exact (h.held hthrown).compact.2
    · intro hthrown
      exact (h.stuck hthrown).compact hturning.2
  · exact h

/-- `Cleanup` gives a fresh parser, but for the last header. -/
theorem cleanup_eq (p : WSParser) :
    p.cleanup =
      { p with
        buffer := p.buffer.reset
        parseState := .parseFirst2Bytes
        requireDataSize := 2
        flatBuffer := []
        fragBuffer := []
        fragOpcode := 0
        inFragment := false } := by
  rw [WSParser.cleanup, requireData_of_zero _ rfl (by norm_num)]

/-- A fresh parser keeps the rules. -/
theorem held_cleanup
    (hmax : p.maxFrameBytes = (WSParser.create.setMaxFrameBytes nBytes).maxFrameBytes) :
    Held nBytes p.cleanup ∧ p.cleanup.buffer.nCurrent = 0 := by
  rw [cleanup_eq]
  refine ⟨⟨hmax, ⟨rfl, rfl, rfl, Nat.zero_le _, rfl, rfl, trivial⟩,
    ⟨Nat.zero_le _, fun _ => rfl, ?_⟩, Nat.zero_le _⟩, rfl⟩
  rintro (hstate | hstate)
  · cases hstate
  · cases hstate

/-- `Cleanup` starts again. -/
theorem Kept.cleanup (h : Kept asserted nBytes s) :
    Kept asserted nBytes (s.step asserted .cleanup) := by
  rw [Life.step]
  split
  · obtain ⟨hheld, hcursor⟩ := held_cleanup h.max_eq
    refine ⟨hheld.max_eq, fun _ => hheld, fun _ _ => hcursor, ?_, h.delivered_eq⟩
    intro hthrown
    cases hthrown
  · exact h

/-- A step under the condition keeps what a run keeps. -/
theorem Kept.step {a : Action} (h : Kept asserted nBytes s) (hends : Ending asserted s a) :
    Kept asserted nBytes (s.step asserted a) := by
  cases a with
  | receive data => exact h.receive hends
  | turn => exact h.turn hends
  | compact => exact h.compact
  | cleanup => exact h.cleanup

/-- A turn that goes on. -/
theorem Life.step_turn_of_ok (asserted : Bool) {again : Bool} {frames : List Frame}
    (hstanding : s.standing = .turning)
    (henough : s.parser.requireDataSize ≤ s.parser.buffer.remainingLength)
    (hasserts : Asserts s.parser) (hturn : s.parser.anyTurn = .ok (again, p, frames)) :
    s.step asserted .turn =
      { s with
        parser := p
        delivered := if s.thrown then s.delivered ++ frames else s.delivered } := by
  rw [Life.step, if_pos ⟨hstanding, henough⟩, Life.turn, if_neg (fun h => h.2 hasserts), hturn]

/-- A turn that throws. -/
theorem Life.step_turn_of_error (asserted : Bool) {e : BCException}
    (hstanding : s.standing = .turning)
    (henough : s.parser.requireDataSize ≤ s.parser.buffer.remainingLength)
    (hasserts : Asserts s.parser) (hturn : s.parser.anyTurn = .error e) :
    s.step asserted .turn =
      { s with standing := .between, parser := s.parser.left, thrown := true } := by
  rw [Life.step, if_pos ⟨hstanding, henough⟩, Life.turn, if_neg (fun h => h.2 hasserts), hturn]

/-- The parser that the first chunk is written to. -/
theorem represents_first (nBytes : ℕ) (data : List UInt8) (hlength : data.length < 2 ^ 32) :
    Represents (WSParser.create.setMaxFrameBytes nBytes).maxFrameBytes
      ((WSParser.create.setMaxFrameBytes nBytes).receive data)
      (.parseFirst2Bytes, WSParser.create.toMessage) data := by
  have hfresh := represents_fresh nBytes
  have hfits : (WSParser.create.setMaxFrameBytes nBytes).buffer.remainingLength + data.length <
      2 ^ 32 := by
    rw [hfresh.remainingLength_eq, List.length_nil]
    omega
  have h := hfresh.receive (held_fresh nBytes).2 hfits
  rwa [List.nil_append] at h

/-- With the assertions built in a refused header meets the condition, whatever comes next. -/
theorem meets_of_refused_header {first second : List UInt8}
    (hbetween : s.standing = .between)
    (hheld : Held nBytes (s.parser.receive first))
    (hstate : (s.parser.receive first).parseState = .parseFirst2Bytes)
    (henough : (s.parser.receive first).requireDataSize ≤
      (s.parser.receive first).buffer.remainingLength)
    {e : BCException} (hturn : (s.parser.receive first).turn = .error e) :
    Meets (Life.step true) (Ending true) s [.receive first, .turn, .receive second, .turn] := by
  generalize hq : s.parser.receive first = q at *
  have hreceive : s.step true (.receive first) = { s with standing := .turning, parser := q } := by
    rw [Life.step, if_pos hbetween, hq]
  have hthrow := Life.step_turn_of_error (s := { s with standing := .turning, parser := q }) true
    rfl henough (hheld.asserts henough) (by rw [hheld.anyTurn_eq henough]; exact hturn)
  simp only [Meets, hreceive, hthrow]
  refine ⟨?_, ?_, ?_, ?_, trivial⟩
  · intro _ h
    cases h
  · intro _ _
    simp only [Ends, hstate, true_or]
  · intro _ h
    cases h
  · intro h
    simp [Life.step] at h

/-- So does a refused extended length that keeps to the condition. -/
theorem meets_of_refused_length (hstanding : s.standing = .turning) (hheld : Held nBytes s.parser)
    (henough : s.parser.requireDataSize ≤ s.parser.buffer.remainingLength)
    (hends : Ends true s.parser) {e : BCException} (hturn : s.parser.turn = .error e)
    (second : List UInt8) :
    Meets (Life.step true) (Ending true) s [.turn, .receive second, .turn] := by
  have hthrow := Life.step_turn_of_error true hstanding henough (hheld.asserts henough)
    (by rw [hheld.anyTurn_eq henough]; exact hturn)
  simp only [Meets, hthrow]
  refine ⟨fun _ _ => hends, ?_, ?_, trivial⟩
  · intro _ h
    cases h
  · intro h
    simp [Life.step] at h

/-- In every run of a parser, on a stream in any chunks and with calls of `Cleanup` in any
place: no call that begins behind an exception hands over a frame, as long as every exception
leaves a parser that cannot, where it is thrown. -/
theorem delivered_eq_nil_of_ending (asserted : Bool) (nBytes : ℕ) (actions : List Action)
    (hending : Meets (Life.step asserted) (Ending asserted) (.initial nBytes) actions) :
    (run (Life.step asserted) (.initial nBytes) actions).delivered = [] := by
  have hkept : Kept asserted nBytes (run (Life.step asserted) (.initial nBytes) actions) :=
    invariant_of_meets (I := Kept asserted nBytes) (fun s a h hends => h.step hends)
      (kept_initial asserted nBytes) hending
  exact hkept.delivered_eq

/-- A header with reserved bits meets the condition, whatever comes next. -/
theorem meets_reservedBits (second : List UInt8) :
    Meets (Life.step true) (Ending true) (.initial 0)
      [.receive [0xFF, 0xFF], .turn, .receive second, .turn] := by
  have hheld := (held_fresh 0).1.receive (held_fresh 0).2 [0xFF, 0xFF]
  have hfirst := represents_first 0 [0xFF, 0xFF] (by norm_num)
  have henough : ((WSParser.create.setMaxFrameBytes 0).receive [0xFF, 0xFF]).requireDataSize ≤
      ((WSParser.create.setMaxFrameBytes 0).receive [0xFF, 0xFF]).buffer.remainingLength := by
    rw [hfirst.required_eq, hfirst.remainingLength_eq]
    exact le_refl 2
  have hturn : ((WSParser.create.setMaxFrameBytes 0).receive [0xFF, 0xFF]).turn =
      .error reservedBits := by
    have hagrees := hfirst.turn (maxFrameBytes_fresh_lt 0) (le_refl 2)
    have hact : act (WSParser.create.setMaxFrameBytes 0).maxFrameBytes
        (.parseFirst2Bytes, WSParser.create.toMessage)
        ([0xFF, 0xFF].take (need (.parseFirst2Bytes, WSParser.create.toMessage))) =
          .error reservedBits := rfl
    rw [hact] at hagrees
    generalize WSParser.turn _ = r at hagrees ⊢
    cases hagrees
    rfl
  exact meets_of_refused_header rfl hheld hfirst.state_eq henough hturn

/-- The header of a text frame of 200 bytes without a mask. -/
def refusedLength : List UInt8 := [0x81, 0x7E, 0x00, 0xC8]

/-- What its first two bytes say. -/
def shortLength : Message :=
  { parsedHeader := ⟨true, 1, false, [0, 0, 0, 0], 126⟩
    fragBuffer := []
    fragOpcode := 0
    inFragment := false }

/-- Under a limit of 100 bytes it meets the condition, whatever comes next. -/
theorem meets_refusedLength (second : List UInt8) :
    Meets (Life.step true) (Ending true) (.initial 100)
      [.receive refusedLength, .turn, .turn, .receive second, .turn] := by
  have hheld := (held_fresh 100).1.receive (held_fresh 100).2 refusedLength
  have hfirst := represents_first 100 refusedLength (by norm_num [refusedLength])
  have henough : ((WSParser.create.setMaxFrameBytes 100).receive refusedLength).requireDataSize ≤
      ((WSParser.create.setMaxFrameBytes 100).receive refusedLength).buffer.remainingLength := by
    rw [hfirst.required_eq, hfirst.remainingLength_eq]
    exact Nat.le_add_left 2 2
  have hagrees := hfirst.turn (maxFrameBytes_fresh_lt 100) (Nat.le_add_left 2 2)
  have hact : act (WSParser.create.setMaxFrameBytes 100).maxFrameBytes
      (.parseFirst2Bytes, WSParser.create.toMessage)
      (refusedLength.take (need (.parseFirst2Bytes, WSParser.create.toMessage))) =
        .ok ((.parsePayloadSize, shortLength), []) := by rfl
  rw [hact] at hagrees
  generalize hturn : WSParser.turn _ = r at hagrees
  cases hagrees with
  | ok hagain hsecond =>
    rename_i again p
    have hheld' := hheld.turn henough hturn
    have hmessage : p.toMessage = shortLength := hsecond.message_eq
    have henough' : p.requireDataSize ≤ p.buffer.remainingLength := by
      rw [hsecond.required_eq, hsecond.remainingLength_eq]
      exact le_refl 2
    have hheader : p.parsedHeader = shortLength.parsedHeader :=
      congrArg Message.parsedHeader hmessage
    have hvalue : beValue p.extendedBytes = 200 := by
      obtain ⟨-, hbytes, -⟩ := hheld'.extendedBytes_eq henough' hsecond.state_eq
      rw [hbytes, hheader, hsecond.remaining_eq]
      decide
    have hends : Ends true p := by
      simp [Ends, hsecond.state_eq, hvalue, hheader, shortLength]
    -- The length is complete, and it is above the limit.
    have hrefused := hsecond.turn (maxFrameBytes_fresh_lt 100) (le_refl 2)
    have hact' : act (WSParser.create.setMaxFrameBytes 100).maxFrameBytes
        (.parsePayloadSize, shortLength) ([0x00, 0xC8].take 2) = .error ⟨"_EnterPayloadStage",
          "Invalid websocket frame: payload length exceeds maxFrameBytes"⟩ := by rfl
    obtain ⟨e, herror⟩ : ∃ e, p.turn = .error e := by
      change TurnAgrees _ _ p.turn (act _ (.parsePayloadSize, shortLength) ([0x00, 0xC8].take 2))
        at hrefused
      rw [hact'] at hrefused
      generalize p.turn = r at hrefused
      cases hrefused
      exact ⟨_, rfl⟩
    have hreceive : (Life.initial 100).step true (.receive refusedLength) =
        ⟨.turning, (WSParser.create.setMaxFrameBytes 100).receive refusedLength, false, []⟩ := rfl
    have hnext := Life.step_turn_of_ok
      (s := ⟨.turning, (WSParser.create.setMaxFrameBytes 100).receive refusedLength, false, []⟩)
      true rfl henough (hheld.asserts henough) (by rw [hheld.anyTurn_eq henough]; exact hturn)
    refine ⟨?_, ?_⟩
    · intro h
      cases h
    · rw [hreceive]
      refine ⟨fun _ _ => ?_, ?_⟩
      · simp only [Ends, hfirst.state_eq, true_or]
      · rw [hnext]
        exact meets_of_refused_length rfl hheld' henough' hends herror second

/-- Behind a header with reserved bits the next header does not get past its assertion; behind a
length above the limit the next call reads the length again, and throws. -/
theorem delivered_eq_nil_refused :
    (run (Life.step true) (.initial 0)
      [.receive [0xFF, 0xFF], .turn, .receive [0x81, 0x01, 0x41], .turn]).delivered = [] ∧
    (run (Life.step true) (.initial 100)
      [.receive refusedLength, .turn, .turn, .receive [0x81, 0x01, 0x41], .turn]).delivered =
        [] :=
  ⟨delivered_eq_nil_of_ending true 0 _ (meets_reservedBits _),
    delivered_eq_nil_of_ending true 100 _ (meets_refusedLength _)⟩

end Keep

section Resumed

variable {p : WSParser} {nBytes : ℕ} {s : Life}

/-- A parser that believes it has read the length of an empty frame without a mask. -/
structure Fooled (p : WSParser) : Prop where
  /-- It waits for an extended length. -/
  state_eq : p.parseState = .parsePayloadSize
  /-- Nothing is required. -/
  required_eq : p.requireDataSize = 0
  /-- The length has been cleared. -/
  size_eq : p.parsedHeader.payloadSize = 0
  /-- There is no mask. -/
  hasMask_eq : p.parsedHeader.hasMask = false
  /-- The fragments are below the limit. -/
  frag_le : p.fragBuffer.length ≤ p.maxFrameBytes

/-- An extended length that is too large leaves such a parser. -/
theorem Held.fooled_left (h : Held nBytes p)
    (henough : p.requireDataSize ≤ p.buffer.remainingLength)
    (hstate : p.parseState = .parsePayloadSize) (h127 : p.parsedHeader.payloadSize = 127)
    (hmask : p.parsedHeader.hasMask = false)
    (hlong : p.maxFrameBytes < beValue p.extendedBytes) :
    (∃ e, p.turn = .error e) ∧ Fooled p.left ∧
      p.left.toMessage =
        { p.toMessage with parsedHeader := { p.parsedHeader with payloadSize := 0 } } := by
  obtain ⟨hread, -, hlength, hcounter⟩ := h.extendedBytes_eq henough hstate
  have hafter : p.toMessage.afterPayloadSize p.maxFrameBytes p.extendedBytes =
      { p.toMessage with parsedHeader := { p.parsedHeader with payloadSize := 0 } } := by
    rw [Message.afterPayloadSize, if_neg (by omega), if_pos h127, if_pos (Or.inr hlong)]
  have hleft : p.left = (p.consumed ((p.buffer.read
      (WSParser.extendedSize p.parsedHeader)).2.rewind 0) p.extendedBytes.length).withMessage
        { p.toMessage with parsedHeader := { p.parsedHeader with payloadSize := 0 } } := by
    rw [← hafter]
    simp only [WSParser.left, hstate, ← hread]
  refine ⟨?_, ?_, by rw [hleft]; rfl⟩
  · have herror : p.toMessage.withPayloadSize p.maxFrameBytes p.extendedBytes =
        .error ⟨"_ParsePayloadSize",
          "Invalid websocket frame: payload length exceeds maxFrameBytes"⟩ := by
      rw [Message.withPayloadSize, if_neg (by omega), if_pos h127, if_pos (Or.inr hlong)]
    simp only [WSParser.turn, hstate, WSParser.parsePayloadSize, ← hread, herror]
    exact ⟨_, rfl⟩
  · rw [hleft]
    refine ⟨hstate, ?_, rfl, hmask, h.bounded.frag_le⟩
    change sub32 p.requireDataSize p.extendedBytes.length = 0
    rw [hlength, hcounter]
    exact sub32_self _

/-- Such a parser goes on with the payload. -/
theorem Fooled.anyTurn (h : Fooled p) :
    p.anyTurn = .ok (true, { p with parseState := .parsePayload }, []) := by
  obtain ⟨hstate, hrequired, hsize, hmask, hfrag⟩ := h
  have hextended : WSParser.extendedSize p.parsedHeader = 0 := by
    rw [WSParser.extendedSize, if_neg (by omega), if_neg (by omega)]
  have hread : p.buffer.read 0 = ([], p.buffer) := rfl
  have hbytes : p.toMessage.withPayloadSize p.maxFrameBytes p.extendedBytes = .ok p.toMessage := by
    rw [Message.withPayloadSize, if_neg (by omega), if_neg (by omega)]
  have hsame : (p.consumed p.buffer ([] : List UInt8).length).withMessage p.toMessage = p := by
    have hcounter : sub32 p.requireDataSize 0 = p.requireDataSize := by
      rw [hrequired]
      exact sub32_self 0
    rw [WSParser.consumed, List.length_nil, hcounter]
    rfl
  have hcheck : p.toMessage.checkSize p.maxFrameBytes = .ok () := by
    rw [Message.checkSize, if_neg (by omega), if_neg (by omega)]
  simp only [WSParser.anyTurn, hstate, WSParser.parseAnyPayloadSize, hbytes, hextended, hread,
    hsame, WSParser.enterPayloadStage, hcheck, hmask, hsize, Bool.false_eq_true, if_false]
  have hnone : p.requireData (0 % 2 ^ 32) .parsePayload =
      (true, { p with parseState := .parsePayload }) := by
    rw [requireData_of_zero _ hrequired (by norm_num), ← hrequired]
    simp [hrequired]
  rw [hnone]
  rfl

/-- The assertion of such a parser holds. -/
theorem Fooled.asserts (h : Fooled p) : Asserts p := by
  have hextended : WSParser.extendedSize p.parsedHeader = 0 := by
    have hsize := h.size_eq
    rw [WSParser.extendedSize, if_neg (by omega), if_neg (by omega)]
  simp only [Asserts, h.state_eq, hextended]
  exact Nat.zero_le _

/-- An empty payload hands over what there is of the message. -/
theorem anyTurn_emptyPayload (hstate : p.parseState = .parsePayload)
    (hsize : p.parsedHeader.payloadSize = 0) :
    ∃ again q, p.anyTurn = .ok (again, q, (p.toMessage.deliverPayload []).2) := by
  simp only [WSParser.anyTurn, hstate, WSParser.turn, WSParser.parsePayload, hsize, if_true]
  rw [if_neg (Nat.not_lt_zero _)]
  exact ⟨_, _, rfl⟩

/-- Behind an extended length of eight bytes that is too large, on a frame without a mask,
whatever comes next makes the parser hand over the frame as if it were empty. -/
theorem delivered_after_refused_length (hheld : Held nBytes s.parser)
    (hstanding : s.standing = .turning)
    (henough : s.parser.requireDataSize ≤ s.parser.buffer.remainingLength)
    (hstate : s.parser.parseState = .parsePayloadSize)
    (h127 : s.parser.parsedHeader.payloadSize = 127) (hmask : s.parser.parsedHeader.hasMask = false)
    (hlong : s.parser.maxFrameBytes < beValue s.parser.extendedBytes) (asserted : Bool)
    (data : List UInt8) :
    (run (Life.step asserted) s [.turn, .receive data, .turn, .turn]).delivered =
      s.delivered ++ (Message.deliverPayload
        { s.parser.toMessage with
          parsedHeader := { s.parser.parsedHeader with payloadSize := 0 } } []).2 := by
  obtain ⟨⟨e, herror⟩, hfooled, hmessage⟩ :=
    hheld.fooled_left henough hstate h127 hmask hlong
  have hasserts := hheld.asserts henough
  rw [← hheld.anyTurn_eq henough] at herror
  set q := s.parser.left.receive data with hq
  have hfooled' : Fooled q :=
    ⟨hfooled.state_eq, hfooled.required_eq, hfooled.size_eq, hfooled.hasMask_eq, hfooled.frag_le⟩
  have hnone (n : ℕ) : q.requireDataSize ≤ n := by
    rw [hfooled'.required_eq]
    exact Nat.zero_le n
  have hthrow := Life.step_turn_of_error asserted hstanding henough hasserts herror
  have hreceive : (s.step asserted .turn).step asserted (.receive data) =
      { s with standing := .turning, parser := q, thrown := true } := by
    rw [hthrow, Life.step, if_pos rfl]
  have hlength := Life.step_turn_of_ok
    (s := { s with standing := .turning, parser := q, thrown := true }) asserted rfl (hnone _)
    hfooled'.asserts hfooled'.anyTurn
  obtain ⟨again, r, hpayload⟩ :=
    anyTurn_emptyPayload (p := { q with parseState := .parsePayload }) rfl hfooled'.size_eq
  have hdeliver := Life.step_turn_of_ok
    (s := { s with
      standing := .turning
      parser := { q with parseState := .parsePayload }
      thrown := true }) asserted rfl (hnone _) trivial hpayload
  simp only [if_true, List.append_nil] at hlength hdeliver
  rw [run_cons, run_cons, run_cons, run_cons, run_nil, hreceive, hlength, hdeliver, ← hmessage]
  rfl

/-- What the first two bytes of a long text frame without a mask say. -/
def longText : Message :=
  { parsedHeader := ⟨true, 1, false, [0, 0, 0, 0], 127⟩
    fragBuffer := []
    fragOpcode := 0
    inFragment := false }

/-- A text frame that announces `2 ^ 63` bytes is refused, and the next byte makes the parser
hand over an empty text frame. -/
theorem not_delivered_eq_nil_longText :
    ¬ (run (Life.step true) (.initial 0)
      [.receive [0x81, 0x7F, 0x80, 0, 0, 0, 0, 0, 0, 0], .turn, .turn, .receive [0], .turn,
        .turn]).delivered = [] := by
  set data : List UInt8 := [0x81, 0x7F, 0x80, 0, 0, 0, 0, 0, 0, 0] with hdata
  have hmax := maxFrameBytes_fresh_lt 0
  have hheld := (held_fresh 0).1.receive (held_fresh 0).2 data
  have hfirst := represents_first 0 data (by norm_num [hdata])
  have henough : ((WSParser.create.setMaxFrameBytes 0).receive data).requireDataSize ≤
      ((WSParser.create.setMaxFrameBytes 0).receive data).buffer.remainingLength := by
    rw [hfirst.required_eq, hfirst.remainingLength_eq, hdata]
    exact Nat.le_add_left 2 8
  have hagrees := hfirst.turn hmax (by rw [hdata]; exact Nat.le_add_left 2 8)
  have hact : act (WSParser.create.setMaxFrameBytes 0).maxFrameBytes
      (.parseFirst2Bytes, WSParser.create.toMessage)
      (data.take (need (.parseFirst2Bytes, WSParser.create.toMessage))) =
        .ok ((.parsePayloadSize, longText), []) := by
    have htake : data.take (need (.parseFirst2Bytes, WSParser.create.toMessage)) =
        [0x81, 0x7F] := rfl
    have hheader : WSParser.create.toMessage.withFirst2Bytes [0x81, 0x7F] = .ok longText := by rfl
    simp only [htake, act, hheader]
    rfl
  rw [hact] at hagrees
  generalize hturn : WSParser.turn _ = r at hagrees
  cases hagrees with
  | ok hagain hsecond =>
    rename_i again p
    have hheld' := hheld.turn henough hturn
    have hmessage : p.toMessage = longText := hsecond.message_eq
    have hlength : (data.drop (need (.parseFirst2Bytes, WSParser.create.toMessage))).length = 8 :=
      rfl
    have henough' : p.requireDataSize ≤ p.buffer.remainingLength := by
      rw [hsecond.required_eq, hsecond.remainingLength_eq, hlength]
      exact le_refl 8
    have hlong : p.maxFrameBytes < beValue p.extendedBytes := by
      obtain ⟨-, hbytes, -⟩ := hheld'.extendedBytes_eq henough' hsecond.state_eq
      have hheader : p.parsedHeader = longText.parsedHeader :=
        congrArg Message.parsedHeader hmessage
      have hvalue : beValue p.extendedBytes = 2 ^ 63 := by
        rw [hbytes, hheader, hsecond.remaining_eq]
        decide
      rw [hvalue, hsecond.max_eq]
      omega
    have hreceive : (Life.initial 0).step true (.receive data) =
        ⟨.turning, (WSParser.create.setMaxFrameBytes 0).receive data, false, []⟩ := rfl
    have hheader := Life.step_turn_of_ok
      (s := ⟨.turning, (WSParser.create.setMaxFrameBytes 0).receive data, false, []⟩) true rfl
      henough (hheld.asserts henough) (by rw [hheld.anyTurn_eq henough]; exact hturn)
    have hframes := delivered_after_refused_length
      (s := ⟨.turning, p, false, []⟩) hheld' rfl henough' hsecond.state_eq
      (by rw [hmessage]; rfl) (by rw [hmessage]; rfl) hlong true [0]
    rw [run_cons, run_cons, hreceive, hheader]
    simp only [Bool.false_eq_true, if_false]
    rw [hframes, hmessage]
    simp [Message.deliverPayload, longText, isControl]

end Resumed

end WS
