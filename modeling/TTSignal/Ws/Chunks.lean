import TTSignal.Runs
import TTSignal.Ws.Turns

/-!
# WebSocket parsing does not depend on the chunks

What `ParseWSFrame` does with a chunk is what the staged parser does with the bytes that
were waiting followed by the chunk, as long as these fit into the 32-bit counters of the
buffer. So the frames delivered before an exception is thrown, and the exception, depend
only on the bytes of the stream.
-/

namespace WS

open BC Runs SMP Staged

/-- The outcomes of a run of the parser and of the staged parser agree. -/
inductive Agrees (maxFrameBytes : ℕ) : List Frame × Except BCException WSParser →
    Outcome UInt8 (ParseStateE × Message) Frame BCException → Prop where
  /-- Both fail with the same exception. -/
  | error (frames : List Frame) (e : BCException) :
      Agrees maxFrameBytes (frames, .error e) (frames, .error e)
  /-- Both wait in the same state with the same bytes. -/
  | ok (frames : List Frame) {p : WSParser} {t : ParseStateE × Message} {waiting : List UInt8}
      (h : Represents maxFrameBytes p t waiting) :
      Agrees maxFrameBytes (frames, .ok p) (frames, .ok (t, waiting))

variable {maxFrameBytes : ℕ} {p : WSParser} {t : ParseStateE × Message} {waiting : List UInt8}

/-- Frames delivered before are kept in front. -/
theorem Agrees.append {r : List Frame × Except BCException WSParser}
    {r' : Outcome UInt8 (ParseStateE × Message) Frame BCException} (h : Agrees maxFrameBytes r r')
    (frames : List Frame) : Agrees maxFrameBytes (frames ++ r.1, r.2) (frames ++ r'.1, r'.2) := by
  cases h with
  | error after e => exact .error (frames ++ after) e
  | ok after h => exact .ok (frames ++ after) h

/-- The remaining length counts the waiting bytes. -/
theorem Represents.remainingLength_eq (h : Represents maxFrameBytes p t waiting) :
    p.buffer.remainingLength = waiting.length := by
  rw [← BCBuffer.length_remaining h.cursor_le, h.remaining_eq]

/-- No state waits for more than a length or a frame. -/
theorem Represents.need_le (h : Represents maxFrameBytes p t waiting) :
    need t ≤ max 8 maxFrameBytes := by
  have hwell := h.wellFormed
  obtain ⟨state, m⟩ := t
  cases state with
  | parseFirst2Bytes =>
    simp only [need]
    omega
  | parsePayloadSize =>
    simp only [need, WSParser.extendedSize]
    split_ifs <;> omega
  | parseMask =>
    simp only [need]
    omega
  | parsePayload => exact le_max_of_le_right hwell

/-- A turn makes the waiting bytes fewer or lowers the rank. -/
theorem turns_lt {t' : ParseStateE × Message} {frames : List Frame}
    (hlen : need t ≤ waiting.length)
    (hact : act maxFrameBytes t (waiting.take (need t)) = .ok (t', frames)) :
    2 * (waiting.drop (need t)).length + rank t' < 2 * waiting.length + rank t := by
  have hrank : rank t' ≤ 3 := by
    unfold rank
    split <;> omega
  rw [List.length_drop]
  by_cases hzero : need t = 0
  · have hlt := (machine maxFrameBytes).rank_lt hzero hact
    change rank t' < rank t at hlt
    omega
  · by_cases htwo : 2 ≤ need t
    · omega
    · obtain ⟨state, m⟩ := t
      cases state with
      | parseFirst2Bytes => exact absurd (le_refl 2) htwo
      | parsePayloadSize =>
        simp only [need, WSParser.extendedSize] at hzero htwo
        split_ifs at hzero htwo <;> omega
      | parseMask => exact absurd (show 2 ≤ 4 by decide) htwo
      | parsePayload =>
        simp only [act] at hact
        cases hact
        simp only [rank]
        omega

/-- The loop with enough fuel drains the waiting bytes as the staged parser does. -/
theorem Represents.parseLoop (hmax : maxFrameBytes < 2 ^ 32) {fuel : ℕ}
    (h : Represents maxFrameBytes p t waiting) (hfuel : 2 * waiting.length + rank t < fuel) :
    Agrees maxFrameBytes (p.parseLoop fuel) ((machine maxFrameBytes).drain t waiting) := by
  induction fuel generalizing p t waiting with
  | zero => omega
  | succ fuel ih =>
    have hremaining := h.remainingLength_eq
    have hrequired := h.required_eq
    rw [WSParser.parseLoop, hremaining, hrequired]
    split
    · rename_i hlt
      rw [Machine.drain_of_lt (m := machine maxFrameBytes) hlt]
      exact .ok [] h
    · rename_i hle
      have hlen : need t ≤ waiting.length := by omega
      have hturn := h.turn hmax hlen
      cases hact : act maxFrameBytes t (waiting.take (need t)) with
      | error e =>
        rw [hact] at hturn
        rw [Machine.drain_of_error (m := machine maxFrameBytes) hlen hact]
        generalize p.turn = r at hturn
        cases hturn
        exact .error [] e
      | ok next =>
        obtain ⟨t', frames⟩ := next
        have hlt := turns_lt hlen hact
        rw [hact] at hturn
        rw [Machine.drain_of_ok (m := machine maxFrameBytes) hlen hact]
        generalize p.turn = r at hturn
        cases hturn with
        | ok hagain h' =>
          simp only
          split
          · exact (ih h' (by omega)).append frames
          · rename_i hstop
            have hshort : (waiting.drop (need t)).length < need t' := by
              rw [hagain, decide_eq_true_eq, h'.required_eq, h'.remainingLength_eq] at hstop
              omega
            rw [show (machine maxFrameBytes).need t = need t from rfl,
              Machine.drain_of_lt (m := machine maxFrameBytes) hshort]
            simpa using Agrees.ok frames h'

/-- The parser between two calls: the read cursor is at the front of the buffer. -/
def AtRest (r : List Frame × Except BCException WSParser) : Prop :=
  ∀ p, r.2 = .ok p → p.buffer.nCurrent = 0

/-- Dropping parsed bytes keeps the waiting ones. -/
theorem Represents.compact (h : Represents maxFrameBytes p t waiting) :
    Represents maxFrameBytes p.compact t waiting ∧ p.compact.buffer.nCurrent = 0 := by
  have hlen := BCBuffer.length_remaining h.cursor_le
  unfold WSParser.compact
  split
  · rename_i hzero
    have hnil : waiting = [] := by
      apply List.length_eq_zero_iff.mp
      rw [← h.remainingLength_eq, hzero]
    subst hnil
    refine ⟨⟨h.state_eq, h.message_eq, h.max_eq, Nat.zero_le _, ?_, h.required_eq,
      h.wellFormed⟩, rfl⟩
    rw [BCBuffer.remaining, BCBuffer.content_reset, List.drop_nil]
  · have hcursor := BCBuffer.nCurrent_removeConsumed p.buffer
    refine ⟨⟨h.state_eq, h.message_eq, h.max_eq, ?_, ?_, h.required_eq, h.wellFormed⟩, hcursor⟩
    · rw [hcursor]
      exact Nat.zero_le _
    · rw [BCBuffer.remaining, hcursor, List.drop_zero, BCBuffer.content_removeConsumed h.cursor_le,
        h.remaining_eq]

/-- A chunk that fits is put behind the waiting bytes. -/
theorem Represents.receive (h : Represents maxFrameBytes p t waiting)
    (hrest : p.buffer.nCurrent = 0) {data : List UInt8}
    (hfits : p.buffer.remainingLength + data.length < 2 ^ 32) :
    Represents maxFrameBytes (p.receive data) t (waiting ++ data) := by
  have hremaining := BCBuffer.remainingLength_eq h.cursor_le
  have hmod : data.length % 2 ^ 32 = data.length := Nat.mod_eq_of_lt (by omega)
  have hlt : p.buffer.nUsed + data.length < 2 ^ 32 := by omega
  have hwaiting := h.remaining_eq
  rw [BCBuffer.remaining, hrest, List.drop_zero] at hwaiting
  unfold WSParser.receive
  rw [hmod, List.take_length]
  have hcursor : (p.buffer.write data).nCurrent = 0 := by rw [BCBuffer.nCurrent_write, hrest]
  refine ⟨h.state_eq, h.message_eq, h.max_eq, ?_, ?_, h.required_eq, h.wellFormed⟩
  · rw [hcursor]
    exact Nat.zero_le _
  · rw [BCBuffer.remaining, hcursor, List.drop_zero, BCBuffer.content_write hlt, hwaiting]

/-- Feeding one chunk: after an exception nothing is fed any more. -/
def feed (r : List Frame × Except BCException WSParser) (chunk : List UInt8) :
    List Frame × Except BCException WSParser :=
  match r.2 with
  | .error e => (r.1, .error e)
  | .ok p => (r.1 ++ (p.parseWSFrame chunk).1, (p.parseWSFrame chunk).2)

/-- Without an exception so far the chunk is parsed. -/
theorem feed_ok (frames : List Frame) (p : WSParser) (chunk : List UInt8) :
    feed (frames, .ok p) chunk = (frames ++ (p.parseWSFrame chunk).1, (p.parseWSFrame chunk).2) :=
  rfl

/-- The exception thrown in a run, if there is one. -/
def thrown (r : List Frame × Except BCException WSParser) : Option BCException :=
  match r.2 with
  | .error e => some e
  | .ok _ => none

/-- A fresh parser, with a limit that may have been set. -/
def fresh (nBytes : ℕ) : List Frame × Except BCException WSParser :=
  ([], .ok (WSParser.create.setMaxFrameBytes nBytes))

/-- The waiting bytes and the chunk fit into the counters of the buffer. -/
def Fits (r : List Frame × Except BCException WSParser) (chunk : List UInt8) : Prop :=
  ∀ p, r.2 = .ok p → p.buffer.remainingLength + chunk.length < 2 ^ 32

/-- A call with a chunk that fits drains the waiting bytes and the chunk. -/
theorem Represents.parseWSFrame (hmax : maxFrameBytes < 2 ^ 32)
    (h : Represents maxFrameBytes p t waiting) (hrest : p.buffer.nCurrent = 0)
    {chunk : List UInt8} (hfits : p.buffer.remainingLength + chunk.length < 2 ^ 32) :
    Agrees maxFrameBytes (p.parseWSFrame chunk)
        ((machine maxFrameBytes).drain t (waiting ++ chunk)) ∧
      AtRest (p.parseWSFrame chunk) := by
  have hlength := h.remainingLength_eq
  have hrank : rank t ≤ 3 := by
    unfold rank
    split <;> omega
  have hfuel : 2 * (waiting ++ chunk).length + rank t <
      2 * (p.buffer.remainingLength + chunk.length) + 4 := by
    rw [List.length_append]
    omega
  have hloop := (h.receive hrest hfits).parseLoop hmax hfuel
  unfold WSParser.parseWSFrame
  generalize WSParser.parseLoop _ _ = after at hloop ⊢
  generalize (machine maxFrameBytes).drain _ _ = after' at hloop ⊢
  cases hloop with
  | error frames e =>
    refine ⟨.error frames e, ?_⟩
    intro p' hp'
    cases hp'
  | ok frames h' =>
    obtain ⟨hcompact, hcursor⟩ := h'.compact
    refine ⟨.ok frames hcompact, ?_⟩
    intro p' hp'
    cases hp'
    exact hcursor

/-- A chunk that fits is fed as to the staged parser. -/
theorem Agrees.feed (hmax : maxFrameBytes < 2 ^ 32)
    {r : List Frame × Except BCException WSParser}
    {r' : Outcome UInt8 (ParseStateE × Message) Frame BCException} (h : Agrees maxFrameBytes r r')
    (hrest : AtRest r) {chunk : List UInt8} (hfits : Fits r chunk) :
    Agrees maxFrameBytes (feed r chunk) ((machine maxFrameBytes).resume r' chunk) ∧
      AtRest (WS.feed r chunk) := by
  cases h with
  | error frames e => exact ⟨.error frames e, hrest⟩
  | ok frames h =>
    obtain ⟨hcall, hrest'⟩ := h.parseWSFrame hmax (hrest _ rfl) (hfits _ rfl)
    rw [feed_ok]
    refine ⟨hcall.append frames, ?_⟩
    intro p' hp'
    exact hrest' p' hp'

/-- Chunks that all fit are fed as to the staged parser. -/
theorem Agrees.run (hmax : maxFrameBytes < 2 ^ 32)
    {r : List Frame × Except BCException WSParser}
    {r' : Outcome UInt8 (ParseStateE × Message) Frame BCException} {chunks : List (List UInt8)}
    (h : Agrees maxFrameBytes r r') (hrest : AtRest r) (hfits : Meets WS.feed Fits r chunks) :
    Agrees maxFrameBytes (Runs.run WS.feed r chunks)
      (chunks.foldl (machine maxFrameBytes).resume r') := by
  induction chunks generalizing r r' with
  | nil => exact h
  | cons chunk chunks ih =>
    obtain ⟨h', hrest'⟩ := h.feed hmax hrest hfits.1
    exact ih h' hrest' hfits.2

/-- Chunks fit that are together with the waiting bytes below the range of the counters. -/
theorem Agrees.meets (hmax : maxFrameBytes < 2 ^ 32)
    {r : List Frame × Except BCException WSParser}
    {r' : Outcome UInt8 (ParseStateE × Message) Frame BCException} {chunks : List (List UInt8)}
    (h : Agrees maxFrameBytes r r') (hrest : AtRest r)
    (hlength : ∀ t waiting, r'.2 = .ok (t, waiting) →
      waiting.length + chunks.flatten.length < 2 ^ 32) : Meets WS.feed Fits r chunks := by
  induction chunks generalizing r r' with
  | nil => trivial
  | cons chunk chunks ih =>
    have hfits : Fits r chunk := by
      intro p hp
      cases h with
      | error frames e => cases hp
      | ok frames h =>
        cases hp
        have hroom := hlength _ _ rfl
        rw [List.flatten_cons, List.length_append] at hroom
        rw [h.remainingLength_eq]
        omega
    obtain ⟨h', hrest'⟩ := h.feed hmax hrest hfits
    refine ⟨hfits, ih h' hrest' ?_⟩
    intro t waiting ht
    cases h with
    | error frames e => cases ht
    | ok frames h =>
      have hle := Machine.length_left_le ht
      have hroom := hlength _ _ rfl
      rw [List.flatten_cons, List.length_append] at hroom
      rw [List.length_append] at hle
      omega

/-- A fresh parser waits for the first two bytes. -/
theorem represents_fresh (nBytes : ℕ) :
    Represents (WSParser.create.setMaxFrameBytes nBytes).maxFrameBytes
      (WSParser.create.setMaxFrameBytes nBytes) (.parseFirst2Bytes, WSParser.create.toMessage)
      [] := by
  have hfields : ∀ q : WSParser, q = WSParser.create.setMaxFrameBytes nBytes →
      q.parseState = .parseFirst2Bytes ∧ q.toMessage = WSParser.create.toMessage ∧
        q.buffer = BCBuffer.empty ∧ q.requireDataSize = 2 := by
    rintro q rfl
    unfold WSParser.setMaxFrameBytes
    split <;> exact ⟨rfl, rfl, rfl, rfl⟩
  obtain ⟨hstate, hmessage, hbuffer, hrequired⟩ := hfields _ rfl
  refine ⟨hstate, hmessage, rfl, ?_, ?_, hrequired, trivial⟩
  · rw [hbuffer]
    exact Nat.zero_le _
  · rw [hbuffer]
    rfl

/-- The configured limit is a 32-bit number. -/
theorem maxFrameBytes_fresh_lt (nBytes : ℕ) :
    (WSParser.create.setMaxFrameBytes nBytes).maxFrameBytes < 2 ^ 32 := by
  unfold WSParser.setMaxFrameBytes
  split
  · change min nBytes (2 ^ 32 - 1) < 2 ^ 32
    omega
  · change wsDefaultMaxFrameBytes < 2 ^ 32
    norm_num [wsDefaultMaxFrameBytes]

/-- Chunks that all fit are fed as the staged parser takes their concatenation. -/
theorem run_agrees (nBytes : ℕ) {chunks : List (List UInt8)}
    (hfits : Meets feed Fits (fresh nBytes) chunks) :
    Agrees (WSParser.create.setMaxFrameBytes nBytes).maxFrameBytes
      (run feed (fresh nBytes) chunks)
      ((machine (WSParser.create.setMaxFrameBytes nBytes).maxFrameBytes).drain
        (.parseFirst2Bytes, WSParser.create.toMessage) chunks.flatten) := by
  set limit := (WSParser.create.setMaxFrameBytes nBytes).maxFrameBytes with hlimit
  have hmax : limit < 2 ^ 32 := maxFrameBytes_fresh_lt nBytes
  have hstart : (machine limit).drain (.parseFirst2Bytes, WSParser.create.toMessage) [] =
      ([], .ok ((.parseFirst2Bytes, WSParser.create.toMessage), [])) :=
    Machine.drain_of_lt (Nat.zero_lt_succ 1)
  have hrest : AtRest (fresh nBytes) := by
    intro p hp
    cases hp
    unfold WSParser.setMaxFrameBytes
    split <;> rfl
  have hall := (Agrees.ok [] (represents_fresh nBytes)).run hmax hrest hfits
  rwa [← hstart, Machine.foldl_resume, List.nil_append] at hall

/-- For every byte stream and any two partitions of it into chunks that fit into the
counters of the buffer: the same frames are delivered before the first exception, and the
same exception is thrown in both runs or none in either. -/
theorem frames_eq_of_flatten_eq (nBytes : ℕ) (first second : List (List UInt8))
    (hstream : first.flatten = second.flatten)
    (hfirst : Meets feed Fits (fresh nBytes) first)
    (hsecond : Meets feed Fits (fresh nBytes) second) :
    (run feed (fresh nBytes) first).1 = (run feed (fresh nBytes) second).1 ∧
      thrown (run feed (fresh nBytes) first) = thrown (run feed (fresh nBytes) second) := by
  have h := run_agrees nBytes hfirst
  have h' := run_agrees nBytes hsecond
  rw [hstream] at h
  generalize run feed (fresh nBytes) first = r at h ⊢
  generalize run feed (fresh nBytes) second = r' at h' ⊢
  generalize (machine _).drain _ _ = s at h h'
  cases h with
  | error frames e =>
    cases h'
    exact ⟨rfl, rfl⟩
  | ok frames h =>
    cases h'
    exact ⟨rfl, rfl⟩

/-- Chunks fit when every chunk has room behind the bytes that wait before it. -/
theorem meets_of_waiting (nBytes : ℕ) {chunks : List (List UInt8)}
    (hroom : ∀ before chunk after, chunks = before ++ chunk :: after →
      ∀ p t waiting,
        Represents (WSParser.create.setMaxFrameBytes nBytes).maxFrameBytes p t waiting →
        ((machine (WSParser.create.setMaxFrameBytes nBytes).maxFrameBytes).drain
          (.parseFirst2Bytes, WSParser.create.toMessage) before.flatten).2 = .ok (t, waiting) →
            waiting.length + chunk.length < 2 ^ 32) :
    Meets feed Fits (fresh nBytes) chunks := by
  induction chunks using List.reverseRecOn with
  | nil => trivial
  | append_singleton chunks chunk ih =>
    have hfits := ih fun before c after h =>
      hroom before c (after ++ [chunk]) (by rw [h, List.append_assoc, List.cons_append])
    refine meets_append.mpr ⟨hfits, ?_, trivial⟩
    have h := run_agrees nBytes hfits
    have hlast := hroom chunks chunk [] rfl
    generalize run feed (fresh nBytes) chunks = r at h
    generalize (machine _).drain _ _ = s at h hlast
    intro p hp
    cases h with
    | error frames e => cases hp
    | ok frames h =>
      cases hp
      rw [h.remainingLength_eq]
      exact hlast _ _ _ h rfl

/-- The chunks of a stream of less than `2 ^ 32` bytes all fit. -/
theorem meets_of_length_lt (nBytes : ℕ) {chunks : List (List UInt8)}
    (hlength : chunks.flatten.length < 2 ^ 32) : Meets feed Fits (fresh nBytes) chunks := by
  apply meets_of_waiting
  intro before chunk after hsplit p t waiting _ hdrain
  have hle := Machine.length_left_le hdrain
  rw [hsplit, List.flatten_append, List.flatten_cons, List.length_append,
    List.length_append] at hlength
  omega

/-- Chunks that leave room for an unfinished frame fit, however long the stream is. -/
theorem meets_of_chunk_le (nBytes : ℕ) {chunks : List (List UInt8)}
    (hchunk : ∀ chunk ∈ chunks,
      max 8 (WSParser.create.setMaxFrameBytes nBytes).maxFrameBytes + chunk.length ≤ 2 ^ 32) :
    Meets feed Fits (fresh nBytes) chunks := by
  apply meets_of_waiting
  intro before chunk after hsplit p t waiting h hdrain
  have hlt := Machine.length_lt_need hdrain
  have hneed := h.need_le
  have hroom := hchunk chunk (by rw [hsplit]; simp)
  change waiting.length < need t at hlt
  omega

/-- A text frame cut before its length and behind it. -/
theorem frames_eq_text :
    (run feed (fresh 0) [[0x81], [0x01, 0x41]]).1 = (run feed (fresh 0) [[0x81, 0x01], [0x41]]).1 ∧
      thrown (run feed (fresh 0) [[0x81], [0x01, 0x41]]) =
        thrown (run feed (fresh 0) [[0x81, 0x01], [0x41]]) :=
  frames_eq_of_flatten_eq 0 _ _ (by decide) (meets_of_length_lt 0 (by decide))
    (meets_of_length_lt 0 (by decide))

/-- The loop does nothing as long as more bytes are required. -/
theorem parseLoop_of_lt {fuel : ℕ} (h : p.buffer.remainingLength < p.requireDataSize) :
    p.parseLoop fuel = ([], .ok p) := by
  cases fuel with
  | zero => rfl
  | succ fuel => rw [WSParser.parseLoop, if_pos h]

/-- The exception for a first byte with reserved bits. -/
def reservedBits : BCException :=
  ⟨"_ParseFirst2Bytes", "Invalid websocket frame: RSV bits set but no extension negotiated"⟩

/-- Nothing of a chunk of exactly `2 ^ 32` bytes is kept. -/
theorem receive_of_length_eq {data : List UInt8} (hlength : data.length = 2 ^ 32) :
    p.receive data = p := by
  unfold WSParser.receive
  rw [hlength, Nat.mod_self, List.take_zero]
  rfl

/-- A stream of `2 ^ 32` bytes with reserved bits is refused when its first two bytes come
as a chunk of their own, and passes unseen when it comes as one chunk. -/
theorem thrown_ne_of_large_chunk :
    [List.replicate (2 ^ 32) (0xFF : UInt8)].flatten =
        [[0xFF, 0xFF], List.replicate (2 ^ 32 - 2) 0xFF].flatten ∧
      thrown (run feed (fresh 0) [List.replicate (2 ^ 32) 0xFF]) = none ∧
        thrown (run feed (fresh 0) [[0xFF, 0xFF], List.replicate (2 ^ 32 - 2) 0xFF]) =
          some reservedBits := by
  refine ⟨?_, ?_, ?_⟩
  · have hsplit : (2 : ℕ) ^ 32 = 2 + (2 ^ 32 - 2) := by norm_num
    have htwo : List.replicate 2 (0xFF : UInt8) = [0xFF, 0xFF] := rfl
    rw [List.flatten_cons, List.flatten_cons, List.flatten_cons, List.flatten_nil,
      List.append_nil, List.append_nil, ← htwo, ← List.replicate_add, ← hsplit]
  · have hcreate : WSParser.create.buffer.remainingLength < WSParser.create.requireDataSize := by
      decide
    have hcall (data : List UInt8) (hlength : data.length = 2 ^ 32) :
        WSParser.create.parseWSFrame data = ([], .ok WSParser.create.compact) := by
      rw [WSParser.parseWSFrame, receive_of_length_eq hlength, parseLoop_of_lt hcreate]
      rfl
    have hrun := hcall (List.replicate (2 ^ 32) 0xFF) List.length_replicate
    rw [run_cons, run_nil]
    change thrown (feed ([], .ok WSParser.create) _) = none
    rw [feed_ok, hrun]
    rfl
  · have hshort : [[(0xFF : UInt8), 0xFF]].flatten.length < 2 ^ 32 := by decide
    have h := run_agrees 0 (meets_of_length_lt 0 hshort)
    have hdrain : (machine (WSParser.create.setMaxFrameBytes 0).maxFrameBytes).drain
        (.parseFirst2Bytes, WSParser.create.toMessage) [[0xFF, 0xFF]].flatten =
          ([], .error reservedBits) :=
      Machine.drain_of_error (by decide) (by rfl)
    rw [hdrain, run_cons, run_nil] at h
    rw [run_cons, run_cons, run_nil]
    generalize feed (fresh 0) [0xFF, 0xFF] = r at h ⊢
    cases h
    rfl

end WS
