import TTSignal.Ws.Frames

/-!
# Fragments are joined

A message is cut into fragments with control frames in front of each of them. Read by the
parser, the control frames are delivered where they stand and the fragments as one frame
with the opcode of the first fragment and all payloads. A frame that may not stand where
it stands makes the parser throw, and nothing of the unfinished message is delivered.
-/

namespace WS

open BC Bytes Runs SMP Staged

/-- An opcode that is not reserved. -/
abbrev Opcode := { opcode : UInt8 // opcode ∈ opcodes }

/-- The opcode of every fragment but the first. -/
def continuation : Opcode := ⟨wsOpContinue, by decide⟩

/-- A valid control frame: final, with a short length, and with a body that a close frame
may have. -/
structure ControlFrame where
  /-- The frame. -/
  frame : WireFrame
  /-- Its opcode is that of a control frame. -/
  control : isControl frame.opcode = true
  /-- It is not fragmented. -/
  final : frame.isFinal = true
  /-- Its length stands in the second byte. -/
  short : frame.form = .short
  /-- A close frame does not hold a single byte. -/
  close : frame.opcode = wsOpClose → frame.payload.length ≠ 1

/-- A part of a message with its length and its mask. -/
structure Piece where
  /-- How the length is written. -/
  form : LengthForm
  /-- The key, for a masked frame. -/
  key : Option Key
  /-- The payload. -/
  payload : List UInt8
  /-- The length can be written so. -/
  fits : form.Fits payload.length

/-- The frame of a piece. -/
def Piece.frame (piece : Piece) (isFinal : Bool) (opcode : Opcode) : WireFrame where
  isFinal := isFinal
  opcode := opcode.1
  form := piece.form
  key := piece.key
  payload := piece.payload
  opcode_mem := opcode.2
  fits := piece.fits

/-- A fragment behind the control frames in front of it. -/
structure Fragment where
  /-- The control frames. -/
  controls : List ControlFrame
  /-- The fragment itself. -/
  piece : Piece

/-- Fragments that are not final; the first of them has the opcode. -/
def fragmentFrames : Opcode → List Fragment → List WireFrame
  | _, [] => []
  | opcode, fragment :: fragments =>
    fragment.controls.map ControlFrame.frame ++
      fragment.piece.frame false opcode :: fragmentFrames continuation fragments

/-- The opcode that the frame behind these fragments has. -/
def nextOpcode : Opcode → List Fragment → Opcode
  | opcode, [] => opcode
  | _, _ :: _ => continuation

/-- The payloads of fragments, joined. -/
def joined (fragments : List Fragment) : List UInt8 :=
  fragments.flatMap fun fragment => fragment.piece.payload

/-- A text or binary message that is not complete yet, or has not started. -/
structure Unfinished where
  /-- The opcode of the message. -/
  opcode : Opcode
  /-- The fragments so far. -/
  fragments : List Fragment
  /-- It is a data message. -/
  data : opcode.1 = wsOpText ∨ opcode.1 = wsOpBinary

/-- A complete message: the last fragment is the final one. -/
structure DataMessage extends Unfinished where
  /-- The final fragment, which may be the only one. -/
  last : Fragment

/-- The bytes of frames. -/
def wire (frames : List WireFrame) : List UInt8 := frames.flatMap WireFrame.bytes

/-- The frames of an unfinished message. -/
def Unfinished.frames (u : Unfinished) : List WireFrame := fragmentFrames u.opcode u.fragments

/-- The frames of a message. -/
def DataMessage.frames (msg : DataMessage) : List WireFrame :=
  msg.toUnfinished.frames ++
    (msg.last.controls.map ControlFrame.frame ++
      [msg.last.piece.frame true (nextOpcode msg.opcode msg.fragments)])

/-- The payload of a message. -/
def DataMessage.payload (msg : DataMessage) : List UInt8 :=
  joined msg.fragments ++ msg.last.piece.payload

/-- The control frames between the fragments of a message. -/
def Unfinished.controls (u : Unfinished) : List ControlFrame :=
  u.fragments.flatMap Fragment.controls

/-- What is delivered of a control frame. -/
def ControlFrame.delivery (c : ControlFrame) : UInt8 × Bool × ℕ × List UInt8 :=
  (c.frame.opcode, true, c.frame.payload.length, c.frame.payload)

/-- What is delivered of a message: the control frames, then one frame with the payload. -/
def DataMessage.deliveries (msg : DataMessage) : List (UInt8 × Bool × ℕ × List UInt8) :=
  (msg.controls ++ msg.last.controls).map ControlFrame.delivery ++
    [(msg.opcode.1, true, msg.payload.length, msg.payload)]

/-- A control frame that the configured limit lets pass. -/
def ControlFrame.Within (maxFrameBytes : ℕ) (c : ControlFrame) : Prop :=
  c.frame.payload.length ≤ maxFrameBytes

instance (maxFrameBytes : ℕ) (c : ControlFrame) : Decidable (c.Within maxFrameBytes) :=
  inferInstanceAs (Decidable (_ ≤ _))

/-- The limit lets the fragments and their control frames pass. -/
structure Unfinished.Within (maxFrameBytes : ℕ) (u : Unfinished) : Prop where
  /-- The fragments together are within the limit. -/
  length_le : (joined u.fragments).length ≤ maxFrameBytes
  /-- So is each control frame. -/
  controls : ∀ c ∈ u.controls, c.Within maxFrameBytes

/-- The limit lets the message and its control frames pass. -/
structure DataMessage.Within (maxFrameBytes : ℕ) (msg : DataMessage) : Prop where
  /-- The message is within the limit. -/
  length_le : msg.payload.length ≤ maxFrameBytes
  /-- So is each control frame between the fragments. -/
  controls : ∀ c ∈ msg.controls ++ msg.last.controls, c.Within maxFrameBytes

/-- A frame that may not stand behind an unfinished message. -/
inductive Illegal (maxFrameBytes : ℕ) (u : Unfinished) (f : WireFrame) : Prop where
  /-- A continuation with no message open. -/
  | continuation (hnone : u.fragments = []) (hopcode : f.opcode = wsOpContinue)
  /-- A new data frame while a message is open. -/
  | newMessage (hopen : u.fragments ≠ []) (hopcode : f.opcode = wsOpText ∨ f.opcode = wsOpBinary)
  /-- A fragmented control frame. -/
  | fragmentedControl (hcontrol : isControl f.opcode = true) (hfinal : f.isFinal = false)
  /-- A fragment with which the sum exceeds the limit. -/
  | tooLong (hopcode : f.opcode = (nextOpcode u.opcode u.fragments).1)
      (hlength : (joined u.fragments).length + f.payload.length > maxFrameBytes)

section Stream

variable {maxFrameBytes : ℕ} {m m' m'' : Message}

/-- The parser reads these bytes between two frames, delivers this, and is between two
frames again. -/
def Passes (maxFrameBytes : ℕ) (m : Message) (bytes : List UInt8)
    (out : List (UInt8 × Bool × ℕ × List UInt8)) (m' : Message) : Prop :=
  ∃ frames : List Frame, frames.map seen = out ∧ ∀ rest,
    (machine maxFrameBytes).drain (.parseFirst2Bytes, m) (bytes ++ rest) =
      (machine maxFrameBytes).resume (frames, .ok ((.parseFirst2Bytes, m'), [])) rest

/-- No bytes pass without a delivery. -/
theorem Passes.nil (m : Message) : Passes maxFrameBytes m [] [] m :=
  ⟨[], rfl, fun _ => rfl⟩

/-- One part of the bytes passes after the other. -/
theorem Passes.append {first second : List UInt8} {out out' : List (UInt8 × Bool × ℕ × List UInt8)}
    (h : Passes maxFrameBytes m first out m') (h' : Passes maxFrameBytes m' second out' m'') :
    Passes maxFrameBytes m (first ++ second) (out ++ out') m'' := by
  obtain ⟨frames, hseen, hdrain⟩ := h
  obtain ⟨frames', hseen', hdrain'⟩ := h'
  refine ⟨frames ++ frames', by rw [List.map_append, hseen, hseen'], fun rest => ?_⟩
  rw [List.append_assoc, hdrain]
  simp only [Machine.resume, List.nil_append, hdrain', List.append_assoc]

/-- What comes behind bytes that pass is delivered behind what they deliver. -/
theorem Passes.error {bytes rest : List UInt8} {out : List (UInt8 × Bool × ℕ × List UInt8)}
    {e : BCException} (h : Passes maxFrameBytes m bytes out m')
    (hrest : (machine maxFrameBytes).drain (.parseFirst2Bytes, m') rest = ([], .error e)) :
    ∃ frames, frames.map seen = out ∧
      (machine maxFrameBytes).drain (.parseFirst2Bytes, m) (bytes ++ rest) =
        (frames, .error e) := by
  obtain ⟨frames, hseen, hdrain⟩ := h
  refine ⟨frames, hseen, ?_⟩
  rw [hdrain]
  simp only [Machine.resume, List.nil_append, hrest, List.append_nil]

/-- A frame that may come here passes. -/
theorem Passes.frame {f : WireFrame} (hmax : maxFrameBytes < 2 ^ 63) (h : m.Admits f)
    (hsize : (m.sized f).checkSize maxFrameBytes = .ok ()) :
    Passes maxFrameBytes m f.bytes (((m.announced f).deliverPayload f.payload).2.map seen)
      ((m.announced f).deliverPayload f.payload).1 :=
  ⟨_, rfl, drain_of_admits hmax h hsize⟩

/-- What the parser holds of a message of which these fragments have come. -/
structure Holds (u : Unfinished) (m : Message) : Prop where
  /-- A message is open behind its first fragment. -/
  open_iff : m.inFragment = true ↔ u.fragments ≠ []
  /-- The payloads are kept. -/
  fragBuffer_eq : m.fragBuffer = joined u.fragments
  /-- The opcode is kept. -/
  fragOpcode_eq : u.fragments ≠ [] → m.fragOpcode = u.opcode.1

/-- Nothing is held between two messages. -/
structure Idle (m : Message) : Prop where
  /-- No message is open. -/
  closed : m.inFragment = false
  /-- No fragment is kept. -/
  empty : m.fragBuffer = []

/-- Between two messages any message can start. -/
theorem Idle.holds (h : Idle m) (u : Unfinished) (hnone : u.fragments = []) : Holds u m := by
  refine ⟨?_, ?_, fun hopen => absurd hnone hopen⟩
  · simp [h.closed, hnone]
  · rw [h.empty, hnone]
    rfl

/-- Two messages with the same fragments. -/
structure SameFragments (m m' : Message) : Prop where
  /-- The same message is open. -/
  open_eq : m'.inFragment = m.inFragment
  /-- The same payloads are kept. -/
  fragBuffer_eq : m'.fragBuffer = m.fragBuffer
  /-- The same opcode is kept. -/
  fragOpcode_eq : m'.fragOpcode = m.fragOpcode

/-- A header leaves the fragments alone. -/
theorem sameFragments_announced (m : Message) (f : WireFrame) :
    SameFragments m (m.announced f) := by
  unfold Message.announced
  split <;> exact ⟨rfl, rfl, rfl⟩

/-- What a message holds depends on its fragments only. -/
theorem Holds.of_same {u : Unfinished} (h : Holds u m) (hsame : SameFragments m m') :
    Holds u m' := by
  obtain ⟨hopen, hbuffer, hopcode⟩ := hsame
  refine ⟨?_, hbuffer.trans h.fragBuffer_eq, fun hne => hopcode.trans (h.fragOpcode_eq hne)⟩
  rw [hopen]
  exact h.open_iff

/-- The header that a frame puts in front of its payload. -/
theorem header_announced (m : Message) (f : WireFrame) :
    (m.announced f).parsedHeader.opcode = m.opcodeFor f ∧
      (m.announced f).parsedHeader.isFinal = f.isFinal ∧
        (m.announced f).parsedHeader.payloadSize = f.payload.length := by
  unfold Message.announced
  split <;> exact ⟨rfl, rfl, rfl⟩

/-- Control frames are not data frames. -/
theorem ne_continue_of_isControl {opcode : UInt8} (h : isControl opcode = true) :
    opcode ≠ wsOpContinue := by
  rintro rfl
  revert h
  decide

/-- A control frame passes at any place and is delivered at once. -/
theorem Passes.control (hmax : maxFrameBytes < 2 ^ 63) (m : Message) (c : ControlFrame)
    (hwithin : c.Within maxFrameBytes) :
    ∃ m', SameFragments m m' ∧ Passes maxFrameBytes m c.frame.bytes [c.delivery] m' := by
  have hne := ne_continue_of_isControl c.control
  have hopcode : m.opcodeFor c.frame = c.frame.opcode := by
    rw [Message.opcodeFor, if_neg hne]
  have hfits := c.frame.fits
  rw [c.short] at hfits
  have hshort : c.frame.payload.length < 126 := hfits
  have hadmits : m.Admits c.frame := by
    constructor
    · exact fun h => absurd h hne
    · intro _ hdata
      rw [c.control] at hdata
      cases hdata
    · exact fun _ => c.final
    · intro _
      rw [c.short]
      exact Nat.le_of_lt_succ hshort
    · intro hclose
      rw [c.short]
      exact c.close hclose
  have hsize : (m.sized c.frame).checkSize maxFrameBytes = .ok () := by
    have hle : ¬c.frame.payload.length > maxFrameBytes := Nat.not_lt.mpr hwithin
    simp [Message.checkSize, Message.sized, hopcode, c.control, hle]
  have hpass := Passes.frame hmax hadmits hsize
  obtain ⟨hannounced, hfinal, hlength⟩ := header_announced m c.frame
  rw [hopcode] at hannounced
  have hdeliver : (m.announced c.frame).deliverPayload c.frame.payload =
      (m.announced c.frame, [((m.announced c.frame).parsedHeader, c.frame.payload)]) := by
    rw [Message.deliverPayload, if_pos (by rw [hannounced]; exact c.control)]
  rw [hdeliver] at hpass
  refine ⟨_, sameFragments_announced m c.frame, ?_⟩
  simpa only [List.map_cons, List.map_nil, seen, hannounced, hfinal, c.final, hlength,
    ControlFrame.delivery] using hpass

/-- Control frames pass one after the other. -/
theorem Passes.controls (hmax : maxFrameBytes < 2 ^ 63) (m : Message) (cs : List ControlFrame)
    (hwithin : ∀ c ∈ cs, c.Within maxFrameBytes) :
    ∃ m', SameFragments m m' ∧
      Passes maxFrameBytes m (wire (cs.map ControlFrame.frame))
        (cs.map ControlFrame.delivery) m' := by
  induction cs generalizing m with
  | nil => exact ⟨m, ⟨rfl, rfl, rfl⟩, .nil m⟩
  | cons c cs ih =>
    obtain ⟨m', hsame, hpass⟩ := Passes.control hmax m c (hwithin c (by simp))
    obtain ⟨m'', hsame', hrest⟩ := ih m' fun d hd => hwithin d (by simp [hd])
    refine ⟨m'', ⟨hsame'.1.trans hsame.1, hsame'.2.trans hsame.2, hsame'.3.trans hsame.3⟩, ?_⟩
    exact hpass.append hrest

variable {u : Unfinished}

/-- The message with one more fragment. -/
def Unfinished.add (u : Unfinished) (fragments : List Fragment) : Unfinished :=
  { u with fragments := u.fragments ++ fragments }

/-- Behind a fragment a continuation follows. -/
theorem nextOpcode_of_ne_nil {opcode : Opcode} {fragments : List Fragment} (h : fragments ≠ []) :
    nextOpcode opcode fragments = continuation := by
  cases fragments with
  | nil => exact absurd rfl h
  | cons fragment fragments => rfl

/-- The opcode of a message is neither that of a continuation nor that of a control frame. -/
theorem Unfinished.opcode_data (u : Unfinished) :
    u.opcode.1 ≠ wsOpContinue ∧ isControl u.opcode.1 = false := by
  rcases u.data with h | h <;> rw [h] <;> decide

/-- A frame that goes on with a message is delivered with the opcode of the message. -/
theorem Holds.opcodeFor {f : WireFrame} (h : Holds u m)
    (hopcode : f.opcode = (nextOpcode u.opcode u.fragments).1) : m.opcodeFor f = u.opcode.1 := by
  unfold Message.opcodeFor
  by_cases hnone : u.fragments = []
  · rw [hnone, nextOpcode] at hopcode
    rw [hopcode, if_neg u.opcode_data.1]
  · rw [nextOpcode_of_ne_nil hnone] at hopcode
    rw [hopcode]
    exact h.fragOpcode_eq hnone

/-- A frame that goes on with a message may come. -/
theorem Holds.admits {f : WireFrame} (h : Holds u m)
    (hopcode : f.opcode = (nextOpcode u.opcode u.fragments).1) : m.Admits f := by
  have hdata : isControl f.opcode = false := by
    rw [hopcode]
    by_cases hnone : u.fragments = []
    · rw [hnone, nextOpcode]
      exact u.opcode_data.2
    · rw [nextOpcode_of_ne_nil hnone]
      rfl
  have hcontrol : ¬isControl f.opcode = true := by simp [hdata]
  constructor
  · intro hcontinue
    rw [h.open_iff]
    intro hnone
    rw [hopcode, hnone, nextOpcode] at hcontinue
    exact u.opcode_data.1 hcontinue
  · intro hcontinue _
    by_contra hopen
    rw [Bool.not_eq_false, h.open_iff] at hopen
    rw [hopcode, nextOpcode_of_ne_nil hopen] at hcontinue
    exact hcontinue rfl
  · exact fun hc => absurd hc hcontrol
  · exact fun hc => absurd hc hcontrol
  · intro hclose
    rw [hclose] at hdata
    cases hdata

/-- The test on the length of a frame that goes on with a message. -/
theorem Holds.checkSize_iff {f : WireFrame} (h : Holds u m)
    (hopcode : f.opcode = (nextOpcode u.opcode u.fragments).1) :
    (m.sized f).checkSize maxFrameBytes = .ok () ↔
      (joined u.fragments).length + f.payload.length ≤ maxFrameBytes := by
  have hfor := h.opcodeFor hopcode
  have hbuffer := h.fragBuffer_eq
  have hdata := u.opcode_data.2
  constructor
  · intro hcheck
    have hroom := (Message.checkSize_eq_ok hcheck).2
    simp only [Message.sized, hfor, hbuffer] at hroom
    exact hroom hdata
  · intro hle
    have hsize : ¬f.payload.length > maxFrameBytes := by omega
    have hroom : ¬(joined u.fragments).length + f.payload.length > maxFrameBytes := by omega
    simp [Message.checkSize, Message.sized, hfor, hbuffer, hsize, hroom]

/-- A fragment that is not final passes without a delivery and is kept. -/
theorem Passes.fragment (hmax : maxFrameBytes < 2 ^ 63) (h : Holds u m) (fragment : Fragment)
    (hlength : (joined u.fragments).length + fragment.piece.payload.length ≤ maxFrameBytes) :
    ∃ m', Holds (u.add [fragment]) m' ∧
      Passes maxFrameBytes m
        (fragment.piece.frame false (nextOpcode u.opcode u.fragments)).bytes [] m' := by
  set f := fragment.piece.frame false (nextOpcode u.opcode u.fragments) with hf
  have hopcode : f.opcode = (nextOpcode u.opcode u.fragments).1 := rfl
  have hpass := Passes.frame hmax (h.admits hopcode) ((h.checkSize_iff hopcode).mpr hlength)
  obtain ⟨hannounced, hfinal, -⟩ := header_announced m f
  rw [h.opcodeFor hopcode] at hannounced
  have hkept := h.of_same (sameFragments_announced m f)
  have hdeliver : (m.announced f).deliverPayload f.payload =
      ({ m.announced f with
          fragBuffer := (m.announced f).fragBuffer ++ f.payload
          inFragment := true
          fragOpcode := (m.announced f).parsedHeader.opcode }, []) := by
    have hopen : (m.announced f).parsedHeader.isFinal = false := hfinal
    rw [Message.deliverPayload, if_neg (by rw [hannounced, u.opcode_data.2]; simp),
      if_neg (by rw [hopen]; simp), if_pos (by rw [hopen]; simp)]
  rw [hdeliver] at hpass
  refine ⟨_, ⟨?_, ?_, fun _ => hannounced⟩, hpass⟩
  · simp [Unfinished.add]
  · change (m.announced f).fragBuffer ++ f.payload = joined (u.fragments ++ [fragment])
    rw [hkept.fragBuffer_eq]
    simp [joined, hf, Piece.frame]

/-- Fragments that are not final pass one after the other, with their control frames. -/
theorem Passes.fragments (hmax : maxFrameBytes < 2 ^ 63) (h : Holds u m) (todo : List Fragment)
    (hlength : (joined (u.fragments ++ todo)).length ≤ maxFrameBytes)
    (hwithin : ∀ c ∈ todo.flatMap Fragment.controls, c.Within maxFrameBytes) :
    ∃ m', Holds (u.add todo) m' ∧
      Passes maxFrameBytes m (wire (fragmentFrames (nextOpcode u.opcode u.fragments) todo))
        ((todo.flatMap Fragment.controls).map ControlFrame.delivery) m' := by
  induction todo generalizing u m with
  | nil =>
    refine ⟨m, ?_, .nil m⟩
    simpa only [Unfinished.add, List.append_nil] using h
  | cons fragment todo ih =>
    obtain ⟨m₁, hsame, hcontrols⟩ := Passes.controls hmax m fragment.controls
      fun c hc => hwithin c (by simp [hc])
    have hfit : (joined u.fragments).length + fragment.piece.payload.length ≤ maxFrameBytes := by
      simp only [joined, List.flatMap_append, List.flatMap_cons, List.length_append] at hlength ⊢
      omega
    obtain ⟨m₂, hholds, hfragment⟩ := Passes.fragment hmax (h.of_same hsame) fragment hfit
    have hassoc : (u.add [fragment]).fragments ++ todo = u.fragments ++ fragment :: todo := by
      simp [Unfinished.add]
    obtain ⟨m', hholds', hrest⟩ := ih hholds (by rw [hassoc]; exact hlength)
      fun c hc => hwithin c (by simp [hc])
    refine ⟨m', ?_, ?_⟩
    · simpa only [Unfinished.add, List.append_assoc, List.cons_append, List.nil_append]
        using hholds'
    · have hnext : nextOpcode (u.add [fragment]).opcode (u.add [fragment]).fragments =
          continuation := nextOpcode_of_ne_nil (by simp [Unfinished.add])
      rw [hnext] at hrest
      have hall := hcontrols.append (hfragment.append hrest)
      simpa [wire, fragmentFrames] using hall

/-- A message passes and is delivered as one frame, and nothing is held behind it. -/
theorem Passes.message (hmax : maxFrameBytes < 2 ^ 63) (h : Idle m) (msg : DataMessage)
    (hwithin : msg.Within maxFrameBytes) :
    ∃ m', Idle m' ∧ Passes maxFrameBytes m (wire msg.frames) msg.deliveries m' := by
  have hlength := hwithin.length_le
  rw [DataMessage.payload, List.length_append] at hlength
  have hstart : Holds { msg.toUnfinished with fragments := [] } m := h.holds _ rfl
  obtain ⟨m₁, hholds, hfragments⟩ := Passes.fragments hmax hstart msg.fragments
    (by simp only [List.nil_append]; omega)
    fun c hc => hwithin.controls c (List.mem_append_left _ hc)
  replace hholds : Holds msg.toUnfinished m₁ := by
    simpa only [Unfinished.add, List.nil_append] using hholds
  change Passes maxFrameBytes m (wire (fragmentFrames msg.opcode msg.fragments)) _ m₁ at hfragments
  obtain ⟨m₂, hsame, hcontrols⟩ := Passes.controls hmax m₁ msg.last.controls
    fun c hc => hwithin.controls c (List.mem_append_right _ hc)
  replace hholds := hholds.of_same hsame
  set f := msg.last.piece.frame true (nextOpcode msg.opcode msg.fragments) with hf
  have hopcode : f.opcode = (nextOpcode msg.opcode msg.fragments).1 := rfl
  have hpass := Passes.frame hmax (hholds.admits hopcode)
    ((hholds.checkSize_iff hopcode).mpr hlength)
  obtain ⟨hannounced, hfinal, hsize⟩ := header_announced m₂ f
  rw [hholds.opcodeFor hopcode] at hannounced
  replace hfinal : (m₂.announced f).parsedHeader.isFinal = true := hfinal
  have hkept := hholds.of_same (sameFragments_announced m₂ f)
  have hdelivered : ∃ m', Idle m' ∧
      Passes maxFrameBytes m₂ f.bytes
        [(msg.opcode.1, true, msg.payload.length, msg.payload)] m' := by
    have hdata : ¬isControl (m₂.announced f).parsedHeader.opcode = true := by
      rw [hannounced, msg.opcode_data.2]
      simp
    by_cases hnone : msg.fragments = []
    · -- a message of one frame is delivered as it came
      have hclosed : (m₂.announced f).inFragment = false := by
        rw [← Bool.not_eq_true, hkept.open_iff]
        exact not_not.mpr hnone
      have hpayload : msg.payload = f.payload := by
        rw [DataMessage.payload, hnone]
        rfl
      rw [Message.deliverPayload, if_neg hdata, if_pos ⟨hfinal, by simp [hclosed]⟩] at hpass
      refine ⟨_, ⟨hclosed, ?_⟩, ?_⟩
      · rw [hkept.fragBuffer_eq, hnone]
        rfl
      · simpa only [List.map_cons, List.map_nil, seen, hannounced, hfinal, hsize, hpayload]
          using hpass
    · -- the last fragment is joined to those before it
      have hopen : (m₂.announced f).inFragment = true := hkept.open_iff.mpr hnone
      have hpayload : (m₂.announced f).fragBuffer ++ f.payload = msg.payload := by
        rw [hkept.fragBuffer_eq]
        rfl
      rw [Message.deliverPayload, if_neg hdata, if_neg (by simp [hopen]),
        if_neg (by simp [hfinal])] at hpass
      refine ⟨{ m₂.announced f with fragBuffer := [], inFragment := false, fragOpcode := 0 },
        ⟨rfl, rfl⟩, ?_⟩
      simpa only [List.map_cons, List.map_nil, seen, hannounced, hfinal, hpayload] using hpass
  obtain ⟨m', hidle, hlast⟩ := hdelivered
  have hall := hfragments.append (hcontrols.append hlast)
  refine ⟨m', hidle, ?_⟩
  simpa [wire, DataMessage.frames, Unfinished.frames, DataMessage.deliveries,
    Unfinished.controls, ← hf] using hall

/-- Messages pass one after the other. -/
theorem Passes.messages (hmax : maxFrameBytes < 2 ^ 63) (h : Idle m) (messages : List DataMessage)
    (hwithin : ∀ msg ∈ messages, msg.Within maxFrameBytes) :
    ∃ m', Idle m' ∧
      Passes maxFrameBytes m (wire (messages.flatMap DataMessage.frames))
        (messages.flatMap DataMessage.deliveries) m' := by
  induction messages generalizing m with
  | nil => exact ⟨m, h, .nil m⟩
  | cons msg messages ih =>
    obtain ⟨m₁, hidle, hpass⟩ := Passes.message hmax h msg (hwithin msg (by simp))
    obtain ⟨m', hidle', hrest⟩ := ih hidle fun other hother => hwithin other (by simp [hother])
    refine ⟨m', hidle', ?_⟩
    simpa [wire] using hpass.append hrest

/-- A frame that may not stand behind an unfinished message makes the parser fail. -/
theorem drain_of_illegal {f : WireFrame} (hmax : maxFrameBytes < 2 ^ 63) (h : Holds u m)
    (hbad : Illegal maxFrameBytes u f) (rest : List UInt8) :
    ∃ e, (machine maxFrameBytes).drain (.parseFirst2Bytes, m) (f.bytes ++ rest) =
      ([], .error e) := by
  by_cases hadmits : m.Admits f
  · cases hbad with
    | continuation hnone hopcode =>
      exact absurd hnone (h.open_iff.mp (hadmits.continued hopcode))
    | newMessage hopen hopcode =>
      have hstarted := hadmits.started (by rcases hopcode with h | h <;> rw [h] <;> decide)
        (by rcases hopcode with h | h <;> rw [h] <;> decide)
      rw [h.open_iff.mpr hopen] at hstarted
      cases hstarted
    | fragmentedControl hcontrol hfinal =>
      rw [hadmits.final hcontrol] at hfinal
      cases hfinal
    | tooLong hopcode hlength =>
      apply drain_of_not_checkSize hmax hadmits
      rw [Ne, h.checkSize_iff hopcode]
      omega
  · exact drain_of_not_admits hadmits rest

end Stream

/-- A fresh parser holds nothing. -/
theorem idle_create : Idle WSParser.create.toMessage := ⟨rfl, rfl⟩

variable {nBytes : ℕ} {chunks : List (List UInt8)}

/-- Legal messages, then control frames: each control frame is delivered at its position
and each message as one frame, and nothing is thrown. -/
theorem reassembles_legal (messages : List DataMessage) (trailing : List ControlFrame)
    (hfits : Meets feed Fits (fresh nBytes) chunks)
    (hmessages : ∀ msg ∈ messages,
      msg.Within (WSParser.create.setMaxFrameBytes nBytes).maxFrameBytes)
    (htrailing : ∀ c ∈ trailing,
      c.Within (WSParser.create.setMaxFrameBytes nBytes).maxFrameBytes)
    (hstream : chunks.flatten =
      wire (messages.flatMap DataMessage.frames ++ trailing.map ControlFrame.frame)) :
    (run feed (fresh nBytes) chunks).1.map seen =
        messages.flatMap DataMessage.deliveries ++ trailing.map ControlFrame.delivery ∧
      thrown (run feed (fresh nBytes) chunks) = none := by
  have hlt := maxFrameBytes_fresh_lt nBytes
  have hagrees := run_agrees nBytes hfits
  generalize (WSParser.create.setMaxFrameBytes nBytes).maxFrameBytes = limit at *
  have hmax : limit < 2 ^ 63 := by omega
  obtain ⟨m, hidle, hpass⟩ := Passes.messages hmax idle_create messages hmessages
  obtain ⟨m', -, hcontrols⟩ := Passes.controls hmax m trailing htrailing
  obtain ⟨frames, hseen, hdrain⟩ := hpass.append hcontrols
  have hall := hdrain []
  have hrest : (machine limit).drain (.parseFirst2Bytes, m') [] =
      ([], .ok ((.parseFirst2Bytes, m'), [])) := Machine.drain_of_lt (Nat.zero_lt_succ 1)
  simp only [Machine.resume, List.append_nil, hrest] at hall
  rw [hstream, wire, List.flatMap_append] at hagrees
  rw [wire, wire] at hall
  rw [hall] at hagrees
  generalize run feed (fresh nBytes) chunks = r at hagrees ⊢
  cases hagrees
  exact ⟨hseen, rfl⟩

/-- Legal messages, then an unfinished one with control frames and a frame that may not
stand there: the parser throws, and of the unfinished message only the control frames are
delivered. -/
theorem throws_illegal (messages : List DataMessage) (u : Unfinished)
    (controls : List ControlFrame) (bad : WireFrame) (rest : List UInt8)
    (hfits : Meets feed Fits (fresh nBytes) chunks)
    (hmessages : ∀ msg ∈ messages,
      msg.Within (WSParser.create.setMaxFrameBytes nBytes).maxFrameBytes)
    (hunfinished : u.Within (WSParser.create.setMaxFrameBytes nBytes).maxFrameBytes)
    (hcontrols : ∀ c ∈ controls,
      c.Within (WSParser.create.setMaxFrameBytes nBytes).maxFrameBytes)
    (hbad : Illegal (WSParser.create.setMaxFrameBytes nBytes).maxFrameBytes u bad)
    (hstream : chunks.flatten =
      wire (messages.flatMap DataMessage.frames) ++
        (wire u.frames ++ (wire (controls.map ControlFrame.frame) ++ (bad.bytes ++ rest)))) :
    (run feed (fresh nBytes) chunks).1.map seen =
        messages.flatMap DataMessage.deliveries ++
          (u.controls ++ controls).map ControlFrame.delivery ∧
      thrown (run feed (fresh nBytes) chunks) ≠ none := by
  have hlt := maxFrameBytes_fresh_lt nBytes
  have hagrees := run_agrees nBytes hfits
  generalize (WSParser.create.setMaxFrameBytes nBytes).maxFrameBytes = limit at *
  have hmax : limit < 2 ^ 63 := by omega
  obtain ⟨m, hidle, hpass⟩ := Passes.messages hmax idle_create messages hmessages
  have hstart : Holds { u with fragments := [] } m := hidle.holds _ rfl
  obtain ⟨m₁, hholds, hfragments⟩ := Passes.fragments hmax hstart u.fragments
    hunfinished.length_le hunfinished.controls
  replace hholds : Holds u m₁ := by
    simpa only [Unfinished.add, List.nil_append] using hholds
  obtain ⟨m₂, hsame, hbetween⟩ := Passes.controls hmax m₁ controls hcontrols
  obtain ⟨e, herror⟩ := drain_of_illegal hmax (hholds.of_same hsame) hbad rest
  obtain ⟨frames, hseen, hdrain⟩ := (hpass.append (hfragments.append hbetween)).error herror
  have hbytes : wire (messages.flatMap DataMessage.frames) ++
      (wire u.frames ++ (wire (controls.map ControlFrame.frame) ++ (bad.bytes ++ rest))) =
        wire (messages.flatMap DataMessage.frames) ++
          (wire (fragmentFrames u.opcode u.fragments) ++
            wire (controls.map ControlFrame.frame)) ++ (bad.bytes ++ rest) := by
    simp only [Unfinished.frames, List.append_assoc]
  change (machine limit).drain _ (wire (messages.flatMap DataMessage.frames) ++
    (wire (fragmentFrames u.opcode u.fragments) ++ wire (controls.map ControlFrame.frame)) ++
      (bad.bytes ++ rest)) = _ at hdrain
  rw [hstream, hbytes, hdrain] at hagrees
  generalize run feed (fresh nBytes) chunks = r at hagrees ⊢
  cases hagrees
  refine ⟨?_, by simp [thrown]⟩
  rw [hseen, List.map_append]
  rfl

/-- For every stream of messages within the limit, cut into any fragments with any control
frames between them: each control frame is delivered at its position and each message as
one frame with the opcode of its first fragment and the payloads joined. And every frame
that may not stand behind an unfinished message makes the parser throw without delivering
anything of that message but its control frames. -/
theorem reassembles (messages : List DataMessage) (hfits : Meets feed Fits (fresh nBytes) chunks)
    (hmessages : ∀ msg ∈ messages,
      msg.Within (WSParser.create.setMaxFrameBytes nBytes).maxFrameBytes) :
    (∀ trailing : List ControlFrame,
      (∀ c ∈ trailing, c.Within (WSParser.create.setMaxFrameBytes nBytes).maxFrameBytes) →
        chunks.flatten =
            wire (messages.flatMap DataMessage.frames ++ trailing.map ControlFrame.frame) →
          (run feed (fresh nBytes) chunks).1.map seen =
              messages.flatMap DataMessage.deliveries ++ trailing.map ControlFrame.delivery ∧
            thrown (run feed (fresh nBytes) chunks) = none) ∧
      ∀ (u : Unfinished) (controls : List ControlFrame) (bad : WireFrame) (rest : List UInt8),
        u.Within (WSParser.create.setMaxFrameBytes nBytes).maxFrameBytes →
          (∀ c ∈ controls, c.Within (WSParser.create.setMaxFrameBytes nBytes).maxFrameBytes) →
            Illegal (WSParser.create.setMaxFrameBytes nBytes).maxFrameBytes u bad →
              chunks.flatten =
                  wire (messages.flatMap DataMessage.frames) ++
                    (wire u.frames ++
                      (wire (controls.map ControlFrame.frame) ++ (bad.bytes ++ rest))) →
                (run feed (fresh nBytes) chunks).1.map seen =
                    messages.flatMap DataMessage.deliveries ++
                      (u.controls ++ controls).map ControlFrame.delivery ∧
                  thrown (run feed (fresh nBytes) chunks) ≠ none := by
  constructor
  · intro trailing htrailing hstream
    exact reassembles_legal messages trailing hfits hmessages htrailing hstream
  · intro u controls bad rest hunfinished hcontrols hbad hstream
    exact throws_illegal messages u controls bad rest hfits hmessages hunfinished hcontrols hbad
      hstream

/-- A ping with a body of two bytes. -/
def ping : ControlFrame where
  frame := ⟨true, wsOpPing, .short, none, [0x61, 0x62], by decide, by decide⟩
  control := by decide
  final := rfl
  short := rfl
  close := by decide

/-- An empty fragment without a mask. -/
def emptyPiece : Piece := ⟨.short, none, [], by decide⟩

/-- A text message of two empty fragments with a ping between them. -/
def cutMessage : DataMessage where
  opcode := ⟨wsOpText, by decide⟩
  fragments := [⟨[], emptyPiece⟩]
  data := Or.inl rfl
  last := ⟨[ping], emptyPiece⟩

/-- With the default limit the message is read. -/
theorem reassembles_cutMessage :
    (run feed (fresh 0) [wire cutMessage.frames]).1.map seen =
        [cutMessage].flatMap DataMessage.deliveries ++ [].map ControlFrame.delivery ∧
      thrown (run feed (fresh 0) [wire cutMessage.frames]) = none := by
  have hwithin : cutMessage.Within (WSParser.create.setMaxFrameBytes 0).maxFrameBytes := by
    refine ⟨by decide, fun c hc => ?_⟩
    obtain rfl : c = ping := by simpa [cutMessage, Unfinished.controls] using hc
    decide
  exact (reassembles [cutMessage] (meets_of_length_lt 0 (by decide)) (by simpa using hwithin)).1 []
    (by simp) (by simp)

/-- With a limit of one byte the ping is refused, although it is a valid control frame and
the message is within the limit. -/
theorem not_reassembles_cutMessage :
    cutMessage.payload.length ≤ (WSParser.create.setMaxFrameBytes 1).maxFrameBytes ∧
      (run feed (fresh 1) [wire cutMessage.frames]).1.map seen ≠ cutMessage.deliveries ∧
        thrown (run feed (fresh 1) [wire cutMessage.frames]) ≠ none := by
  have hlimit : (WSParser.create.setMaxFrameBytes 1).maxFrameBytes = 1 := by decide
  have hlength : [wire cutMessage.frames].flatten.length < 2 ^ 32 := by decide
  have hagrees := run_agrees 1 (meets_of_length_lt 1 hlength)
  rw [hlimit] at hagrees ⊢
  have hstart : Holds { cutMessage.toUnfinished with fragments := [] } WSParser.create.toMessage :=
    idle_create.holds _ rfl
  have hmax : 1 < 2 ^ 63 := by norm_num
  obtain ⟨m, hholds, hpass⟩ := Passes.fragment hmax hstart ⟨[], emptyPiece⟩ (by decide)
  have hping : ∃ e, (machine 1).drain (.parseFirst2Bytes, m)
      (ping.frame.bytes ++ (emptyPiece.frame true continuation).bytes) = ([], .error e) := by
    by_cases hadmits : m.Admits ping.frame
    · refine drain_of_not_checkSize hmax hadmits (fun hsize => ?_) _
      have hle : ping.frame.payload.length ≤ 1 := (Message.checkSize_eq_ok hsize).1
      exact absurd hle (by decide)
    · exact drain_of_not_admits hadmits _
  obtain ⟨e, herror⟩ := hping
  obtain ⟨frames, hseen, hdrain⟩ := hpass.error herror
  change (machine 1).drain _ (wire cutMessage.frames) = _ at hdrain
  rw [List.flatten_singleton, hdrain] at hagrees
  generalize run feed (fresh 1) [wire cutMessage.frames] = r at hagrees ⊢
  cases hagrees
  refine ⟨by decide, ?_, by simp [thrown]⟩
  rw [hseen]
  decide

end WS
