import TTSignal.Ws.Chunks

/-!
# What the WebSocket parser waits for and what it keeps

In every state that `ParseWSFrame` goes through, `require_data_size_` is the number of
bytes the state needs, so none of its updates wraps. A length a peer announces is checked
before the parser waits for it, and what is kept of an unfinished message stays below the
limit. This holds for chunks of every size, also where the counters of the buffer wrap.
-/

namespace WS

open BC Runs SMP Staged

/-- Where a call of `ParseWSFrame` stands: it has returned, or it is about to take a turn
of its loop. -/
inductive Moment where
  | between
  | turning
  deriving DecidableEq

/-- The parsers a run of `ParseWSFrame` calls goes through before the first error. -/
inductive Reached (nBytes : ℕ) : Moment → WSParser → Prop where
  /-- A fresh parser with its limit. -/
  | create : Reached nBytes .between (WSParser.create.setMaxFrameBytes nBytes)
  /-- A call writes its chunk to the buffer. -/
  | receive {p : WSParser} (data : List UInt8) (h : Reached nBytes .between p) :
      Reached nBytes .turning (p.receive data)
  /-- A turn of the loop with enough bytes. -/
  | turn {p p' : WSParser} {again : Bool} {frames : List Frame} (h : Reached nBytes .turning p)
      (henough : p.requireDataSize ≤ p.buffer.remainingLength)
      (hturn : p.turn = .ok (again, p', frames)) : Reached nBytes .turning p'
  /-- The end of a call. -/
  | compact {p : WSParser} (h : Reached nBytes .turning p) : Reached nBytes .between p.compact

/-- The loop goes from turn to turn. -/
theorem Reached.parseLoop {nBytes fuel : ℕ} {p p' : WSParser} (h : Reached nBytes .turning p)
    (hloop : (p.parseLoop fuel).2 = .ok p') : Reached nBytes .turning p' := by
  induction fuel generalizing p with
  | zero =>
    cases hloop
    exact h
  | succ fuel ih =>
    rw [WSParser.parseLoop] at hloop
    split at hloop
    · cases hloop
      exact h
    · rename_i henough
      split at hloop
      · cases hloop
      · rename_i again q frames hturn
        have hnext := h.turn (Nat.le_of_not_lt henough) hturn
        split at hloop
        · exact ih hnext hloop
        · cases hloop
          exact hnext

/-- A call without an error goes from rest to rest. -/
theorem Reached.parseWSFrame {nBytes : ℕ} {p p' : WSParser} {chunk : List UInt8}
    (h : Reached nBytes .between p) (hcall : (p.parseWSFrame chunk).2 = .ok p') :
    Reached nBytes .between p' := by
  simp only [WSParser.parseWSFrame] at hcall
  cases hloop : ((p.receive chunk).parseLoop
      (2 * (p.buffer.remainingLength + chunk.length) + 4)).2 with
  | error e =>
    rw [hloop] at hcall
    cases hcall
  | ok q =>
    rw [hloop] at hcall
    cases hcall
    exact ((h.receive chunk).parseLoop hloop).compact

/-- The parser behind a run without an error is one of them. -/
theorem reached_of_run {nBytes : ℕ} {chunks : List (List UInt8)} {p : WSParser}
    (hrun : (run feed (fresh nBytes) chunks).2 = .ok p) : Reached nBytes .between p := by
  induction chunks using List.reverseRecOn generalizing p with
  | nil =>
    cases hrun
    exact .create
  | append_singleton chunks chunk ih =>
    rw [run_concat] at hrun
    cases hbefore : (run feed (fresh nBytes) chunks).2 with
    | error e =>
      rw [feed, hbefore] at hrun
      cases hrun
    | ok q =>
      rw [feed, hbefore] at hrun
      exact (ih hbefore).parseWSFrame hrun

/-- What a state of the staged parser keeps of an unfinished message. -/
structure Bounded (maxFrameBytes : ℕ) (t : ParseStateE × Message) : Prop where
  /-- The fragments together stay below the limit. -/
  frag_le : t.2.fragBuffer.length ≤ maxFrameBytes
  /-- Without an open message there are no fragments. -/
  frag_eq_nil : t.2.inFragment = false → t.2.fragBuffer = []
  /-- The payload of a data frame fits behind the fragments. -/
  room : t.1 = .parseMask ∨ t.1 = .parsePayload → isControl t.2.parsedHeader.opcode = false →
    t.2.fragBuffer.length + t.2.parsedHeader.payloadSize ≤ maxFrameBytes

section Staged

variable {maxFrameBytes : ℕ} {m m' : Message} {t t' : ParseStateE × Message}
  {data : List UInt8} {out : List Frame}

/-- What the first two bytes leave alone. -/
theorem Message.withFirst2Bytes_eq_ok (h : m.withFirst2Bytes data = .ok m') :
    m'.fragBuffer = m.fragBuffer ∧ m'.inFragment = m.inFragment ∧
      m'.fragOpcode = m.fragOpcode := by
  simp only [Message.withFirst2Bytes] at h
  split at h
  · cases h
  · split at h
    · cases h
    · cases h
      exact ⟨rfl, rfl, rfl⟩

/-- What an extended length leaves alone. -/
theorem Message.withPayloadSize_eq_ok (h : m.withPayloadSize maxFrameBytes data = .ok m') :
    m'.fragBuffer = m.fragBuffer ∧ m'.inFragment = m.inFragment ∧
      m'.fragOpcode = m.fragOpcode := by
  simp only [Message.withPayloadSize] at h
  split at h
  · cases h
    exact ⟨rfl, rfl, rfl⟩
  · split at h
    · split at h
      · cases h
      · cases h
        exact ⟨rfl, rfl, rfl⟩
    · cases h
      exact ⟨rfl, rfl, rfl⟩

/-- A payload that passed the tests fits. -/
theorem Message.checkSize_eq_ok (h : m.checkSize maxFrameBytes = .ok ()) :
    m.parsedHeader.payloadSize ≤ maxFrameBytes ∧
      (isControl m.parsedHeader.opcode = false →
        m.fragBuffer.length + m.parsedHeader.payloadSize ≤ maxFrameBytes) := by
  unfold Message.checkSize at h
  split at h
  · cases h
  · rename_i hsize
    split at h
    · cases h
    · rename_i hroom
      refine ⟨by omega, fun hdata => ?_⟩
      rw [hdata] at hroom
      simp only [Bool.false_eq_true, not_false_eq_true, true_and] at hroom
      omega

/-- Behind a complete length the payload fits. -/
theorem Bounded.enter (hfrag : m.fragBuffer.length ≤ maxFrameBytes)
    (hnil : m.inFragment = false → m.fragBuffer = [])
    (h : WS.enter maxFrameBytes m = .ok (t', out)) : Bounded maxFrameBytes t' := by
  obtain ⟨hcheck, -, rfl⟩ := enter_eq_ok h
  exact ⟨hfrag, hnil, fun _ => (Message.checkSize_eq_ok hcheck).2⟩

/-- Delivering a payload that fits keeps what is kept below the limit. -/
theorem Bounded.deliverPayload (hfrag : m.fragBuffer.length ≤ maxFrameBytes)
    (hnil : m.inFragment = false → m.fragBuffer = [])
    (hroom : isControl m.parsedHeader.opcode = false →
      m.fragBuffer.length + data.length ≤ maxFrameBytes) :
    Bounded maxFrameBytes (.parseFirst2Bytes, (m.deliverPayload data).1) := by
  have hstate : ∀ m : Message,
      ¬((ParseStateE.parseFirst2Bytes, m).1 = .parseMask ∨
        (ParseStateE.parseFirst2Bytes, m).1 = .parsePayload) := by
    intro m
    simp
  unfold Message.deliverPayload
  split
  · exact ⟨hfrag, hnil, fun h => absurd h (hstate m)⟩
  · rename_i hdata
    split
    · exact ⟨hfrag, hnil, fun h => absurd h (hstate m)⟩
    · split
      · refine ⟨?_, ?_, fun h => absurd h (hstate _)⟩
        · have hle := hroom (by simpa using hdata)
          simpa only [List.length_append] using hle
        · intro h
          cases h
      · exact ⟨Nat.zero_le _, fun _ => rfl, fun h => absurd h (hstate _)⟩

/-- Every action keeps what is kept below the limit. -/
theorem Bounded.act (h : Bounded maxFrameBytes t) (hlen : data.length = need t)
    (hact : WS.act maxFrameBytes t data = .ok (t', out)) : Bounded maxFrameBytes t' := by
  obtain ⟨hfrag, hnil, hroom⟩ := h
  obtain ⟨state, m⟩ := t
  cases state with
  | parseFirst2Bytes =>
    simp only [WS.act] at hact
    split at hact
    · cases hact
    · rename_i m' hfirst
      obtain ⟨hbuffer, hopen, -⟩ := Message.withFirst2Bytes_eq_ok hfirst
      simp only [← hbuffer, ← hopen] at hfrag hnil
      split at hact
      · cases hact
        exact ⟨hfrag, hnil, by simp⟩
      · exact Bounded.enter hfrag hnil hact
  | parsePayloadSize =>
    simp only [WS.act] at hact
    split at hact
    · cases hact
    · rename_i m' hsize
      obtain ⟨hbuffer, hopen, -⟩ := Message.withPayloadSize_eq_ok hsize
      simp only [← hbuffer, ← hopen] at hfrag hnil
      exact Bounded.enter hfrag hnil hact
  | parseMask =>
    cases hact
    exact ⟨hfrag, hnil, fun _ => hroom (Or.inl rfl)⟩
  | parsePayload =>
    cases hact
    apply Bounded.deliverPayload hfrag hnil
    intro hdata
    have hle := hroom (Or.inr rfl) hdata
    rw [length_unmasked, hlen]
    exact hle

end Staged

/-- The `ASSERT`s of the function that takes the next turn. -/
def Asserts (p : WSParser) : Prop :=
  match p.parseState with
  | .parseFirst2Bytes => 2 ≤ p.requireDataSize
  | .parsePayloadSize => WSParser.extendedSize p.parsedHeader ≤ p.buffer.remainingLength
  | .parseMask => 4 ≤ p.requireDataSize ∧ 4 ≤ p.buffer.remainingLength
  | .parsePayload => True

/-- The number of bytes that the function that takes the next turn reads, which it takes
off `require_data_size_`. -/
def readSize (p : WSParser) : ℕ :=
  match p.parseState with
  | .parseFirst2Bytes => (p.buffer.read 2).1.length
  | .parsePayloadSize => (p.buffer.read (WSParser.extendedSize p.parsedHeader)).1.length
  | .parseMask => (p.buffer.read 4).1.length
  | .parsePayload =>
    (writeFromBuffer ⟨p.parsedHeader.payloadSize, []⟩ p.buffer
      p.parsedHeader.payloadSize).1.written.length

/-- The counter, the assertions and the limits of a parser. -/
structure Sound (p : WSParser) : Prop where
  /-- The limit is a 32-bit number. -/
  max_lt : p.maxFrameBytes < 2 ^ 32
  /-- The counter is the number of bytes the state needs. -/
  required_eq : p.requireDataSize = need (p.parseState, p.toMessage)
  /-- The buffer's own assertion holds. -/
  cursor_le : p.buffer.nCurrent ≤ p.buffer.nUsed
  /-- The assertions of a turn that is taken hold. -/
  asserts : p.requireDataSize ≤ p.buffer.remainingLength → Asserts p
  /-- A turn that is taken reads what was required and takes it off the counter. -/
  readSize_eq : p.requireDataSize ≤ p.buffer.remainingLength → readSize p = p.requireDataSize
  /-- The branch of `_ParsePayload` for a short payload is not taken. -/
  not_short : p.parseState = .parsePayload → p.parsedHeader.payloadSize ≤ p.requireDataSize
  /-- A payload the parser will wait for, or waits for, is below the limit. -/
  payload_le : p.parseState = .parseMask ∨ p.parseState = .parsePayload →
    p.parsedHeader.payloadSize ≤ p.maxFrameBytes
  /-- Nothing longer than a length field or the limit is waited for. -/
  required_le : p.requireDataSize ≤ max 8 p.maxFrameBytes
  /-- The fragments together stay below the limit. -/
  frag_le : p.fragBuffer.length ≤ p.maxFrameBytes
  /-- Without an open message there are no fragments. -/
  frag_eq_nil : p.inFragment = false → p.fragBuffer = []
  /-- The payload buffer stays below the limit. -/
  flat_le : p.flatBuffer.length ≤ p.maxFrameBytes

section Parser

variable {maxFrameBytes nBytes : ℕ} {p p' : WSParser} {t : ParseStateE × Message}
  {waiting : List UInt8}

/-- A chunk of any size leaves some bytes waiting. -/
theorem Represents.receive_any (h : Represents maxFrameBytes p t waiting)
    (hrest : p.buffer.nCurrent = 0) (data : List UInt8) :
    Represents maxFrameBytes (p.receive data) t (p.receive data).buffer.remaining := by
  refine ⟨h.state_eq, h.message_eq, h.max_eq, ?_, rfl, h.required_eq, h.wellFormed⟩
  have hcursor : (p.receive data).buffer.nCurrent = 0 := by
    rw [WSParser.receive, BCBuffer.nCurrent_write, hrest]
  rw [hcursor]
  exact Nat.zero_le _

/-- Only the payload state touches the payload buffer, which grows to the payload. -/
theorem flatBuffer_turn {again : Bool} {frames : List Frame}
    (h : p.turn = .ok (again, p', frames)) :
    p'.flatBuffer = p.flatBuffer ∨
      p.parseState = .parsePayload ∧
        p'.flatBuffer.length ≤ max p.flatBuffer.length
          (max p.parsedHeader.payloadSize (writeFromBuffer ⟨p.parsedHeader.payloadSize, []⟩
            p.buffer p.parsedHeader.payloadSize).1.written.length) := by
  have henter : ∀ q : WSParser, ∀ r,
      q.enterPayloadStage = .ok r → r.2.flatBuffer = q.flatBuffer := by
    intro q r hq
    unfold WSParser.enterPayloadStage at hq
    split at hq
    · cases hq
    · split at hq <;> cases hq <;> rfl
  cases hstate : p.parseState with
  | parseFirst2Bytes =>
    left
    simp only [WSParser.turn, hstate, WSParser.parseFirst2Bytes] at h
    split at h
    · cases h
    · split at h
      · cases h
        rfl
      · split at h
        · cases h
          rfl
        · cases hnext : WSParser.enterPayloadStage _ with
          | error e =>
            rw [hnext] at h
            cases h
          | ok r =>
            rw [hnext] at h
            cases h
            have hflat := henter _ _ hnext
            exact hflat
  | parsePayloadSize =>
    left
    simp only [WSParser.turn, hstate, WSParser.parsePayloadSize] at h
    split at h
    · cases h
    · cases hnext : WSParser.enterPayloadStage _ with
      | error e =>
        rw [hnext] at h
        cases h
      | ok r =>
        rw [hnext] at h
        cases h
        have hflat := henter _ _ hnext
        exact hflat
  | parseMask =>
    left
    simp only [WSParser.turn, hstate] at h
    cases h
    rfl
  | parsePayload =>
    simp only [WSParser.turn, hstate, WSParser.parsePayload] at h
    split at h
    · cases h
    · split at h
      · cases h
        exact Or.inl rfl
      · cases h
        refine Or.inr ⟨rfl, ?_⟩
        simp only [WSParser.requireData, Blocks.splice, List.take_zero, List.nil_append,
          Nat.zero_add, List.length_append, List.length_drop, List.length_replicate,
          length_unmasked]
        omega

/-- A turn that is taken reads what the state needs. -/
theorem Represents.readSize_eq (h : Represents maxFrameBytes p t waiting)
    (hlen : need t ≤ waiting.length) : readSize p = need t := by
  have htake : (waiting.take (need t)).length = need t := by
    rw [List.length_take]
    omega
  have hread := (h.consumed hlen).1
  have hmessage := h.message_eq
  have hstate := h.state_eq
  obtain ⟨state, m⟩ := t
  subst hmessage
  unfold readSize
  rw [hstate]
  cases state with
  | parseFirst2Bytes => rw [← htake, ← hread]; rfl
  | parsePayloadSize => rw [← htake, ← hread]; rfl
  | parseMask => rw [← htake, ← hread]; rfl
  | parsePayload =>
    have hall : p.parsedHeader.payloadSize ≤ p.buffer.remaining.length := by
      rw [h.remaining_eq]
      exact hlen
    have hroom : (⟨p.parsedHeader.payloadSize, []⟩ : BCFBOStream).written.length +
        p.parsedHeader.payloadSize ≤ p.parsedHeader.payloadSize := by simp
    have hwritten :=
      (writeFromBufferLoop_spec h.cursor_le hall (Nat.lt_succ_self _) hroom).1
    simp only [writeFromBuffer, hwritten, List.nil_append, h.remaining_eq]
    exact htake

/-- The invariant of a run: the staged parser is represented, and what is kept is bounded. -/
structure Held (nBytes : ℕ) (p : WSParser) : Prop where
  /-- The limit is the configured one. -/
  max_eq : p.maxFrameBytes = (WSParser.create.setMaxFrameBytes nBytes).maxFrameBytes
  /-- A state of the staged parser is represented. -/
  represents : Represents p.maxFrameBytes p (p.parseState, p.toMessage) p.buffer.remaining
  /-- What the state keeps is bounded. -/
  bounded : Bounded p.maxFrameBytes (p.parseState, p.toMessage)
  /-- The payload buffer stays below the limit. -/
  flat_le : p.flatBuffer.length ≤ p.maxFrameBytes

/-- The configured limit is a 32-bit number. -/
theorem Held.max_lt (h : Held nBytes p) : p.maxFrameBytes < 2 ^ 32 := by
  rw [h.max_eq]
  exact maxFrameBytes_fresh_lt nBytes

/-- A representation names the states of the parser itself. -/
theorem Represents.self (h : Represents maxFrameBytes p t waiting) :
    t = (p.parseState, p.toMessage) := by
  rw [h.state_eq, h.message_eq]

/-- A turn keeps the invariant. -/
theorem Held.turn {again : Bool} {frames : List Frame} (h : Held nBytes p)
    (henough : p.requireDataSize ≤ p.buffer.remainingLength)
    (hturn : p.turn = .ok (again, p', frames)) : Held nBytes p' := by
  have hneed : need (p.parseState, p.toMessage) ≤ p.buffer.remaining.length := by
    rw [← h.represents.required_eq, ← h.represents.remainingLength_eq]
    exact henough
  have hagrees := h.represents.turn h.max_lt hneed
  have hread := h.represents.readSize_eq hneed
  have hflat := flatBuffer_turn hturn
  have hlength : (p.buffer.remaining.take (need (p.parseState, p.toMessage))).length =
      need (p.parseState, p.toMessage) := by
    rw [List.length_take]
    omega
  rw [hturn] at hagrees
  generalize hact : act _ _ _ = r at hagrees
  cases hagrees with
  | ok hagain h' =>
    rename_i t'
    have hmax : p'.maxFrameBytes = p.maxFrameBytes := h'.max_eq
    have hbounded := h.bounded.act hlength hact
    obtain rfl := h'.self
    have hwait := h'.remaining_eq
    rw [← hwait, ← hmax] at h'
    rw [← hmax] at hbounded
    refine ⟨hmax.trans h.max_eq, h', hbounded, ?_⟩
    rw [hmax]
    rcases hflat with hsame | ⟨hstate, hle⟩
    · rw [hsame]
      exact h.flat_le
    · have hpayload : p.parsedHeader.payloadSize ≤ p.maxFrameBytes := by
        have hwell := h.represents.wellFormed
        rw [hstate] at hwell
        exact hwell
      simp only [readSize, hstate, need] at hread
      have hold := h.flat_le
      omega

/-- A fresh parser keeps nothing. -/
theorem held_fresh (nBytes : ℕ) : Held nBytes (WSParser.create.setMaxFrameBytes nBytes) ∧
    (WSParser.create.setMaxFrameBytes nBytes).buffer.nCurrent = 0 := by
  have hfresh := represents_fresh nBytes
  have hfields : ∀ q : WSParser, q = WSParser.create.setMaxFrameBytes nBytes →
      q.buffer.nCurrent = 0 ∧ q.flatBuffer = [] ∧ q.fragBuffer = [] := by
    rintro q rfl
    unfold WSParser.setMaxFrameBytes
    split <;> exact ⟨rfl, rfl, rfl⟩
  generalize hq : WSParser.create.setMaxFrameBytes nBytes = q at hfresh ⊢
  obtain ⟨hcursor, hflat, hfrag⟩ := hfields q hq.symm
  have hself := hfresh.self
  have hwait := hfresh.remaining_eq
  rw [hself] at hfresh
  rw [← hwait] at hfresh
  refine ⟨⟨by rw [hq], hfresh, ⟨?_, fun _ => hfrag, ?_⟩, ?_⟩, hcursor⟩
  · change q.fragBuffer.length ≤ q.maxFrameBytes
    rw [hfrag]
    exact Nat.zero_le _
  · rw [← hself]
    simp
  · rw [hflat]
    exact Nat.zero_le _

/-- Another buffer with the waiting bytes of the same state. -/
theorem Held.setBuffer (h : Held nBytes p) (b : BCBuffer)
    (hrep : Represents p.maxFrameBytes { p with buffer := b } (p.parseState, p.toMessage)
      b.remaining) : Held nBytes { p with buffer := b } :=
  ⟨h.max_eq, hrep, h.bounded, h.flat_le⟩

/-- A chunk of any size keeps the invariant. -/
theorem Held.receive (h : Held nBytes p) (hrest : p.buffer.nCurrent = 0) (data : List UInt8) :
    Held nBytes (p.receive data) := by
  have hreceive := h.represents.receive_any hrest data
  exact h.setBuffer _ hreceive

/-- The end of a call keeps the invariant, with the read cursor at the front. -/
theorem Held.compact (h : Held nBytes p) :
    Held nBytes p.compact ∧ p.compact.buffer.nCurrent = 0 := by
  obtain ⟨hcompact, hcursor⟩ := h.represents.compact
  rw [← hcompact.remaining_eq] at hcompact
  exact ⟨h.setBuffer _ hcompact, hcursor⟩

/-- Every reached parser keeps the invariant, and between two calls the read cursor is at
the front of the buffer. -/
theorem Reached.held {moment : Moment} (h : Reached nBytes moment p) :
    Held nBytes p ∧ (moment = .between → p.buffer.nCurrent = 0) := by
  induction h with
  | create => exact ⟨(held_fresh nBytes).1, fun _ => (held_fresh nBytes).2⟩
  | receive data h ih => exact ⟨ih.1.receive (ih.2 rfl) data, fun h => by cases h⟩
  | turn h henough hturn ih => exact ⟨ih.1.turn henough hturn, fun h => by cases h⟩
  | compact h ih => exact ⟨ih.1.compact.1, fun _ => ih.1.compact.2⟩

/-- The assertions of a turn with enough bytes hold. -/
theorem Held.asserts (h : Held nBytes p)
    (henough : p.requireDataSize ≤ p.buffer.remainingLength) : Asserts p := by
  have hrequired := h.represents.required_eq
  unfold Asserts
  cases hstate : p.parseState with
  | parseFirst2Bytes =>
    rw [hstate] at hrequired
    exact hrequired.ge
  | parsePayloadSize =>
    rw [hstate] at hrequired
    exact hrequired.symm.trans_le henough
  | parseMask =>
    rw [hstate] at hrequired
    exact ⟨hrequired.ge, hrequired.symm.trans_le henough⟩
  | parsePayload => trivial

/-- In every state that a sequence of `ParseWSFrame` calls on any bytes goes through up to
the first error: the counter is exactly what the state needs, every assertion holds, no
update of the counter wraps, the branch for a short payload is not taken, and what the
parser waits for and keeps is below the limit. -/
theorem sound_of_reached {moment : Moment} (h : Reached nBytes moment p) : Sound p := by
  have hheld := h.held.1
  have hrep := hheld.represents
  have hwell := hrep.wellFormed
  have hremaining := hrep.remainingLength_eq
  constructor
  · exact hheld.max_lt
  · exact hrep.required_eq
  · exact hrep.cursor_le
  · exact hheld.asserts
  · intro henough
    rw [hrep.required_eq] at henough ⊢
    exact hrep.readSize_eq (henough.trans_eq hremaining)
  · intro hstate
    have hrequired := hrep.required_eq
    rw [hstate] at hrequired
    exact hrequired.ge
  · rintro (hstate | hstate)
    · rw [hstate] at hwell
      exact hwell
    · rw [hstate] at hwell
      exact hwell
  · rw [hrep.required_eq]
    exact hrep.need_le
  · exact hheld.bounded.frag_le
  · exact hheld.bounded.frag_eq_nil
  · exact hheld.flat_le

/-- What the first two bytes of a long masked text frame say. -/
def maskedText : Message :=
  { parsedHeader := ⟨true, 1, true, [0, 0, 0, 0], 126⟩
    fragBuffer := []
    fragOpcode := 0
    inFragment := false }

/-- What is known of it behind its extended length. -/
def announced128 : Message :=
  { maskedText with parsedHeader := ⟨true, 1, true, [0, 0, 0, 0], 128⟩ }

/-- What is known of it behind the mask. -/
def masked128 : Message :=
  { maskedText with parsedHeader := ⟨true, 1, true, [1, 2, 3, 4], 128⟩ }

/-- The header of a masked text frame of 128 bytes and the first of them, in two reads. -/
def textChunks : List (List UInt8) := [[0x81, 0xFE, 0x00], [0x80, 1, 2, 3, 4, 0x60]]

/-- The first two bytes, the length and the mask take a turn each. -/
theorem drain_textChunks {maxFrameBytes : ℕ} (hmax : 128 ≤ maxFrameBytes) :
    (machine maxFrameBytes).drain (.parseFirst2Bytes, WSParser.create.toMessage)
      textChunks.flatten = ([], .ok ((.parsePayload, masked128), [0x60])) := by
  have hbytes : textChunks.flatten =
      [0x81, 0xFE] ++ ([0x00, 0x80] ++ ([1, 2, 3, 4] ++ [0x60])) := rfl
  have hheader : (machine maxFrameBytes).act (.parseFirst2Bytes, WSParser.create.toMessage)
      [0x81, 0xFE] = .ok ((.parsePayloadSize, maskedText), []) := by rfl
  have hlength : (machine maxFrameBytes).act (.parsePayloadSize, maskedText) [0x00, 0x80] =
      .ok ((.parseMask, announced128), []) := by
    have hcheck : announced128.checkSize maxFrameBytes = .ok () := by
      simp [Message.checkSize, announced128, maskedText, Nat.not_lt.mpr hmax]
    have hsize : maskedText.withPayloadSize maxFrameBytes [0x00, 0x80] = .ok announced128 := by
      rfl
    simp only [machine, act, hsize, enter, hcheck]
    rfl
  have hmask : (machine maxFrameBytes).act (.parseMask, announced128) [1, 2, 3, 4] =
      .ok ((.parsePayload, masked128), []) := by rfl
  rw [hbytes, Machine.drain_of_silent rfl hheader, Machine.drain_of_silent rfl hlength,
    Machine.drain_of_silent rfl hmask]
  exact Machine.drain_of_lt (Nat.le_of_ble_eq_true rfl)

/-- Behind an extended length and the mask that came in two reads, the parser waits for the 128
bytes of the payload. -/
theorem sound_text : ∃ p, (run feed (fresh 0) textChunks).2 = .ok p ∧
    p.parseState = .parsePayload ∧ p.requireDataSize = 128 ∧ Sound p := by
  have hagrees := run_agrees 0 (meets_of_length_lt 0 (Nat.le_of_ble_eq_true rfl) :
    Meets feed Fits (fresh 0) textChunks)
  rw [drain_textChunks (by decide)] at hagrees
  generalize hrun : run feed (fresh 0) textChunks = r at hagrees
  cases hagrees with
  | ok _ h =>
    exact ⟨_, rfl, h.state_eq, h.required_eq,
      sound_of_reached (reached_of_run (congrArg Prod.snd hrun))⟩

end Parser

end WS
