import TTSignal.Ws.Limits
import Mathlib.Data.Bool.AllAny

/-!
# Frames on the wire

The bytes of a WebSocket frame, with each of the three encodings of its length and with or
without a mask, and what the staged parser does with them: a frame that is allowed behind
what came before is taken off the stream and delivered or kept, every other frame makes
the parser fail.
-/

namespace WS

open Bytes SMP Staged

/-- `WS_OP_TEXT`. -/
def wsOpText : UInt8 := 0x1

/-- `WS_OP_PING`. -/
def wsOpPing : UInt8 := 0x9

/-- The opcodes that are not reserved. -/
def opcodes : List UInt8 := [wsOpContinue, wsOpText, wsOpBinary, wsOpClose, wsOpPing, wsOpPong]

/-- The three ways to write a length. -/
inductive LengthForm where
  | short
  | medium
  | large
  deriving DecidableEq

/-- The length can be written in this way. -/
def LengthForm.Fits : LengthForm → ℕ → Prop
  | .short, n => n < 126
  | .medium, n => n < 2 ^ 16
  | .large, n => n < 2 ^ 64

instance (form : LengthForm) (n : ℕ) : Decidable (form.Fits n) :=
  match form with
  | .short => inferInstanceAs (Decidable (n < 126))
  | .medium => inferInstanceAs (Decidable (n < 2 ^ 16))
  | .large => inferInstanceAs (Decidable (n < 2 ^ 64))

/-- The seven bits of the length field. -/
def LengthForm.field : LengthForm → ℕ → ℕ
  | .short, n => n
  | .medium, _ => 126
  | .large, _ => 127

/-- The extended length. -/
def LengthForm.extended : LengthForm → ℕ → List UInt8
  | .short, _ => []
  | .medium, n => beBytes 2 n
  | .large, n => beBytes 8 n

/-- A masking key of four bytes. -/
abbrev Key := { key : List UInt8 // key.length = 4 }

/-- A payload combined with the key. -/
def applyMask (key data : List UInt8) : List UInt8 :=
  data.mapIdx fun i b => b ^^^ key.getD (i % 4) 0

/-- A frame as a peer sends it. -/
structure WireFrame where
  /-- The final bit. -/
  isFinal : Bool
  /-- The opcode. -/
  opcode : UInt8
  /-- How the length is written. -/
  form : LengthForm
  /-- The key, for a masked frame. -/
  key : Option Key
  /-- The payload without a mask. -/
  payload : List UInt8
  /-- The opcode is not reserved. -/
  opcode_mem : opcode ∈ opcodes
  /-- The length can be written so. -/
  fits : form.Fits payload.length

namespace WireFrame

variable (f : WireFrame)

/-- The first byte. -/
def firstByte : UInt8 := (if f.isFinal then 0x80 else 0) ||| f.opcode

/-- The second byte. -/
def secondByte : UInt8 :=
  (if f.key.isSome then 0x80 else 0) ||| UInt8.ofNat (f.form.field f.payload.length)

/-- The key on the wire. -/
def keyBytes : List UInt8 :=
  match f.key with
  | none => []
  | some key => key.1

/-- The payload on the wire. -/
def payloadBytes : List UInt8 :=
  match f.key with
  | none => f.payload
  | some key => applyMask key.1 f.payload

/-- The frame on the wire. -/
def bytes : List UInt8 :=
  f.firstByte :: f.secondByte ::
    (f.form.extended f.payload.length ++ (f.keyBytes ++ f.payloadBytes))

end WireFrame

/-- What the application sees of a frame: its opcode, its final bit, its payload size and
its payload. -/
def seen (frame : Frame) : UInt8 × Bool × ℕ × List UInt8 :=
  (frame.1.opcode, frame.1.isFinal, frame.1.payloadSize, frame.2)

/-- Masking twice with one key changes nothing. -/
theorem applyMask_applyMask (key data : List UInt8) :
    applyMask key (applyMask key data) = data := by
  have hxor (b k : UInt8) : b ^^^ k ^^^ k = b := by
    rw [UInt8.xor_assoc, UInt8.xor_self, UInt8.xor_zero]
  apply List.ext_getElem
  · simp [applyMask]
  · intro i h _
    simp [applyMask, hxor]

/-- Masking keeps the length. -/
@[simp] theorem length_applyMask (key data : List UInt8) :
    (applyMask key data).length = data.length := by
  simp [applyMask]

/-- The payload on the wire has the length of the payload. -/
@[simp] theorem WireFrame.length_payloadBytes (f : WireFrame) :
    f.payloadBytes.length = f.payload.length := by
  unfold payloadBytes
  split <;> simp

/-- The bits of a first byte. -/
theorem firstByte_bits (f : WireFrame) :
    f.firstByte &&& 0x70 = 0 ∧ f.firstByte &&& 0x0F = f.opcode ∧
      (decide (f.firstByte &&& 0x80 ≠ 0) = f.isFinal) := by
  have hall : ∀ opcode ∈ opcodes, ∀ final : Bool,
      ((if final then 0x80 else 0) ||| opcode) &&& 0x70 = 0 ∧
        ((if final then 0x80 else 0) ||| opcode) &&& 0x0F = opcode ∧
          (decide (((if final then 0x80 else 0) ||| opcode) &&& 0x80 ≠ 0) = final) :=
    List.all_iff_forall_prop.mp (by decide)
  exact hall f.opcode f.opcode_mem f.isFinal

/-- The length field has seven bits. -/
theorem LengthForm.field_lt {form : LengthForm} {n : ℕ} (h : form.Fits n) : form.field n < 128 := by
  cases form with
  | short => exact Nat.lt_trans h (by norm_num)
  | medium => exact Nat.lt_succ_of_lt (Nat.lt_succ_self 126)
  | large => exact Nat.lt_succ_self 127

/-- The bits of a second byte. -/
theorem secondByte_bits (f : WireFrame) :
    (f.secondByte &&& 0x7F).toNat = f.form.field f.payload.length ∧
      (decide (f.secondByte >>> 7 ≠ 0) = f.key.isSome) := by
  have hall : ∀ n : Fin 128, ∀ masked : Bool,
      (((if masked then 0x80 else 0) ||| UInt8.ofNat n.1) &&& 0x7F).toNat = n.1 ∧
        (decide (((if masked then (0x80 : UInt8) else 0) ||| UInt8.ofNat n.1) >>> 7 ≠ 0) =
          masked) := by
    decide +kernel
  exact hall ⟨_, LengthForm.field_lt f.fits⟩ f.key.isSome

namespace Message

variable (m : Message) (f : WireFrame)

/-- The opcode a frame is delivered with: a continuation has that of its message. -/
def opcodeFor : UInt8 := if f.opcode = wsOpContinue then m.fragOpcode else f.opcode

/-- The message behind the first two bytes of a frame. -/
def begun : Message :=
  { m with
    parsedHeader :=
      { m.parsedHeader with
        isFinal := f.isFinal
        opcode := m.opcodeFor f
        hasMask := f.key.isSome
        payloadSize := f.form.field f.payload.length } }

/-- The message behind the length of a frame. -/
def sized : Message :=
  { m with
    parsedHeader :=
      { m.parsedHeader with
        isFinal := f.isFinal
        opcode := m.opcodeFor f
        hasMask := f.key.isSome
        payloadSize := f.payload.length } }

/-- The message in front of the payload of a frame. -/
def announced : Message :=
  match f.key with
  | none => m.sized f
  | some key => (m.sized f).withMask key.1

/-- The frame may come here: a continuation belongs to an open message, a new message
starts when none is open, and a control frame is final and short. -/
structure Admits : Prop where
  /-- A continuation needs an open message. -/
  continued : f.opcode = wsOpContinue → m.inFragment = true
  /-- A new data frame needs that no message is open. -/
  started : f.opcode ≠ wsOpContinue → isControl f.opcode = false → m.inFragment = false
  /-- A control frame is not fragmented. -/
  final : isControl f.opcode = true → f.isFinal = true
  /-- A control frame is short. -/
  short : isControl f.opcode = true → f.form.field f.payload.length ≤ wsMaxControlPayload
  /-- A close frame does not hold a single byte. -/
  close : f.opcode = wsOpClose → f.form.field f.payload.length ≠ 1

variable {m f}

/-- The first byte of a frame that may come here. -/
theorem checkFirstByte_of_admits (h : m.Admits f) :
    m.checkFirstByte f.firstByte = .ok (m.opcodeFor f) := by
  obtain ⟨hreserved, hopcode, -⟩ := firstByte_bits f
  have hlegal : ∀ opcode ∈ opcodes,
      ¬(opcode > wsOpPong ∨ (opcode > wsOpBinary ∧ opcode < wsOpClose)) :=
    List.all_iff_forall_prop.mp (by decide)
  simp only [checkFirstByte, hreserved, hopcode, ne_eq, not_true_eq_false, if_false,
    if_neg (hlegal _ f.opcode_mem), opcodeFor]
  by_cases hcontinue : f.opcode = wsOpContinue
  · have hopen := h.continued hcontinue
    simp [hcontinue, hopen]
  · cases hcontrol : isControl f.opcode with
    | true => simp [hcontinue]
    | false =>
      have hfresh := h.started hcontinue hcontrol
      simp [hcontinue, hfresh]

/-- The length of a frame that may come here. -/
theorem checkControl_of_admits (h : m.Admits f) :
    checkControl f.opcode f.isFinal (f.form.field f.payload.length) = .ok () := by
  unfold checkControl
  cases hcontrol : isControl f.opcode with
  | false => simp
  | true =>
    have hfinal := h.final hcontrol
    have hshort := h.short hcontrol
    have hclose : ¬(f.opcode = wsOpClose ∧ f.form.field f.payload.length = 1) :=
      fun hboth => h.close hboth.1 hboth.2
    rw [if_neg (by simp), if_neg (by simp [hfinal]), if_neg (by omega), if_neg hclose]

/-- The first two bytes of a frame that may come here. -/
theorem withFirst2Bytes_of_admits (h : m.Admits f) :
    m.withFirst2Bytes [f.firstByte, f.secondByte] = .ok (m.begun f) := by
  obtain ⟨-, hopcode, hfinal⟩ := firstByte_bits f
  obtain ⟨hfield, hmasked⟩ := secondByte_bits f
  have hfirst := checkFirstByte_of_admits h
  have hcontrol := checkControl_of_admits h
  simp only [withFirst2Bytes, List.getD_cons_zero, List.getD_cons_succ, hfirst, hopcode, hfield,
    hfinal, hmasked, hcontrol, begun]

/-- What a first byte that passes the tests says about the frame. -/
theorem checkFirstByte_eq_ok {opcode : UInt8} (h : m.checkFirstByte f.firstByte = .ok opcode) :
    (f.opcode = wsOpContinue → m.inFragment = true) ∧
      (f.opcode ≠ wsOpContinue → isControl f.opcode = false → m.inFragment = false) := by
  simp only [checkFirstByte, (firstByte_bits f).2.1] at h
  split at h
  · cases h
  · split at h
    · cases h
    · split at h
      · rename_i hcontinue
        split at h
        · cases h
        · rename_i hopen
          exact ⟨fun _ => by simpa using hopen, fun hne => absurd hcontinue hne⟩
      · rename_i hcontinue
        refine ⟨fun heq => absurd heq hcontinue, fun _ hdata => ?_⟩
        rw [if_neg (by simp [hdata])] at h
        split at h
        · cases h
        · rename_i hopen
          simpa using hopen

/-- What a control frame that passes the tests looks like. -/
theorem checkControl_eq_ok {isFinal : Bool} {opcode : UInt8} {size : ℕ}
    (h : checkControl opcode isFinal size = .ok ()) (hcontrol : isControl opcode = true) :
    isFinal = true ∧ size ≤ wsMaxControlPayload ∧ (opcode = wsOpClose → size ≠ 1) := by
  unfold checkControl at h
  rw [if_neg (by simp [hcontrol])] at h
  split at h
  · cases h
  · rename_i hfinal
    split at h
    · cases h
    · rename_i hshort
      split at h
      · cases h
      · rename_i hclose
        refine ⟨by simpa using hfinal, by omega, fun heq hone => hclose ⟨heq, hone⟩⟩

/-- The first two bytes of a frame that may not come here. -/
theorem withFirst2Bytes_of_not_admits (h : ¬m.Admits f) :
    ∃ e, m.withFirst2Bytes [f.firstByte, f.secondByte] = .error e := by
  obtain ⟨-, hopcode, hfinal⟩ := firstByte_bits f
  have hfield := (secondByte_bits f).1
  simp only [withFirst2Bytes, List.getD_cons_zero, List.getD_cons_succ, hopcode, hfield, hfinal]
  cases hfirst : m.checkFirstByte f.firstByte with
  | error e => exact ⟨e, rfl⟩
  | ok opcode =>
    cases hsecond : checkControl f.opcode f.isFinal (f.form.field f.payload.length) with
    | error e => exact ⟨e, rfl⟩
    | ok u =>
      obtain ⟨hcontinued, hstarted⟩ := checkFirstByte_eq_ok hfirst
      have hcontrol := checkControl_eq_ok (hsecond.trans rfl)
      refine absurd ⟨hcontinued, hstarted, fun h => (hcontrol h).1, fun h => (hcontrol h).2.1,
        fun hclose => ?_⟩ h
      have hopcode : isControl f.opcode = true := by
        rw [hclose]
        rfl
      exact (hcontrol hopcode).2.2 hclose

/-- An extended length in front of a frame that may come here. -/
theorem withPayloadSize_begun {maxFrameBytes : ℕ} (hform : f.form ≠ .short)
    (hlarge : f.form = .large →
      f.payload.length < 2 ^ 63 ∧ f.payload.length ≤ maxFrameBytes) :
    (m.begun f).withPayloadSize maxFrameBytes (f.form.extended f.payload.length) =
      .ok (m.sized f) := by
  have hfits := f.fits
  cases h : f.form with
  | short => exact absurd h hform
  | medium =>
    rw [h] at hfits
    have hvalue : beValue (beBytes 2 f.payload.length) = f.payload.length := by
      rw [beValue_beBytes]
      exact Nat.mod_eq_of_lt hfits
    simp [withPayloadSize, begun, sized, h, LengthForm.field, LengthForm.extended, hvalue]
  | large =>
    rw [h] at hfits
    have hvalue : beValue (beBytes 8 f.payload.length) = f.payload.length := by
      rw [beValue_beBytes]
      exact Nat.mod_eq_of_lt (Nat.lt_of_lt_of_eq hfits (by norm_num))
    obtain ⟨hsign, hmax⟩ := hlarge h
    have hok : ¬(f.payload.length / 2 ^ 63 ≠ 0 ∨ f.payload.length > maxFrameBytes) := by
      rw [Nat.div_eq_of_lt hsign]
      omega
    simp only [withPayloadSize, begun, sized, h, LengthForm.field, LengthForm.extended, hvalue]
    rw [if_neg (by norm_num), if_pos trivial, if_neg hok]

/-- An extended length above the limit is refused at once or by the test behind it. -/
theorem withPayloadSize_begun_large {maxFrameBytes : ℕ} (hform : f.form = .large)
    (hmax : f.payload.length > maxFrameBytes) :
    ∃ e, (m.begun f).withPayloadSize maxFrameBytes (f.form.extended f.payload.length) =
      .error e := by
  have hfits := f.fits
  rw [hform] at hfits
  have hvalue : beValue (beBytes 8 f.payload.length) = f.payload.length := by
    rw [beValue_beBytes]
    exact Nat.mod_eq_of_lt (Nat.lt_of_lt_of_eq hfits (by norm_num))
  simp only [withPayloadSize, begun, hform, LengthForm.field, LengthForm.extended, hvalue]
  rw [if_neg (by norm_num), if_pos trivial, if_pos (Or.inr hmax)]
  exact ⟨_, rfl⟩

end Message

section Stream

variable {maxFrameBytes : ℕ} {m : Message} {f : WireFrame}

/-- A frame that may not come here makes the parser fail. -/
theorem drain_of_not_admits (h : ¬m.Admits f) (rest : List UInt8) :
    ∃ e, (machine maxFrameBytes).drain (.parseFirst2Bytes, m) (f.bytes ++ rest) =
      ([], .error e) := by
  obtain ⟨e, he⟩ := Message.withFirst2Bytes_of_not_admits h
  have hact : (machine maxFrameBytes).act (.parseFirst2Bytes, m)
      ((f.bytes ++ rest).take ((machine maxFrameBytes).need (.parseFirst2Bytes, m))) =
        .error e := by
    change act maxFrameBytes (.parseFirst2Bytes, m) [f.firstByte, f.secondByte] = .error e
    simp only [act, he]
  refine ⟨e, Machine.drain_of_error ?_ hact⟩
  change 2 ≤ (f.firstByte :: f.secondByte :: _).length
  simp only [List.length_cons]
  omega

variable (maxFrameBytes) in
/-- The first two bytes of a frame with a short length. -/
theorem act_first2Bytes_short (h : m.Admits f) (hform : f.form = .short) :
    act maxFrameBytes (.parseFirst2Bytes, m) [f.firstByte, f.secondByte] =
      enter maxFrameBytes (m.sized f) := by
  have hfits := f.fits
  rw [hform] at hfits
  have hlt : f.payload.length < 126 := hfits
  have hbegun : m.begun f = m.sized f := by
    simp only [Message.begun, Message.sized, hform, LengthForm.field]
  simp only [act, Message.withFirst2Bytes_of_admits h, hbegun]
  rw [if_neg]
  simp only [Message.sized]
  omega

variable (maxFrameBytes) in
/-- The first two bytes of a frame with an extended length. -/
theorem act_first2Bytes_extended (h : m.Admits f) (hform : f.form ≠ .short) :
    act maxFrameBytes (.parseFirst2Bytes, m) [f.firstByte, f.secondByte] =
      .ok ((.parsePayloadSize, m.begun f), []) := by
  simp only [act, Message.withFirst2Bytes_of_admits h]
  rw [if_pos]
  simp only [Message.begun]
  cases hcase : f.form with
  | short => exact absurd hcase hform
  | medium => exact Or.inl rfl
  | large => exact Or.inr rfl

/-- The state of an extended length waits for the bytes of the length. -/
theorem need_begun (hform : f.form ≠ .short) :
    need (.parsePayloadSize, m.begun f) = (f.form.extended f.payload.length).length := by
  cases hcase : f.form with
  | short => exact absurd hcase hform
  | medium => simp [need, WSParser.extendedSize, Message.begun, hcase, LengthForm.field,
      LengthForm.extended]
  | large => simp [need, WSParser.extendedSize, Message.begun, hcase, LengthForm.field,
      LengthForm.extended]

/-- Behind the length of a frame that may come here the test of `_EnterPayloadStage` stands. -/
theorem drain_length (hmax : maxFrameBytes < 2 ^ 63) (h : m.Admits f) (tail : List UInt8) :
    (∃ e, (machine maxFrameBytes).drain (.parseFirst2Bytes, m)
        (f.firstByte :: f.secondByte :: (f.form.extended f.payload.length ++ tail)) =
          ([], .error e) ∧ (m.sized f).checkSize maxFrameBytes ≠ .ok ()) ∨
      (m.sized f).checkSize maxFrameBytes = .ok () ∧
        (machine maxFrameBytes).drain (.parseFirst2Bytes, m)
          (f.firstByte :: f.secondByte :: (f.form.extended f.payload.length ++ tail)) =
            (machine maxFrameBytes).drain
              (if f.key.isSome then .parseMask else .parsePayload, m.sized f) tail := by
  have htwo (bytes : List UInt8) : (machine maxFrameBytes).need (.parseFirst2Bytes, m) ≤
      (f.firstByte :: f.secondByte :: bytes).length := by
    change 2 ≤ (f.firstByte :: f.secondByte :: bytes).length
    simp only [List.length_cons]
    omega
  by_cases hform : f.form = .short
  · have hact := act_first2Bytes_short maxFrameBytes h hform
    simp only [hform, LengthForm.extended, List.nil_append]
    unfold enter at hact
    cases hcheck : (m.sized f).checkSize maxFrameBytes with
    | error e =>
      rw [hcheck] at hact
      refine Or.inl ⟨e, Machine.drain_of_error (htwo _) hact, by simp⟩
    | ok u =>
      rw [hcheck] at hact
      refine Or.inr ⟨rfl, ?_⟩
      rw [Machine.drain_of_ok (htwo _) hact]
      rfl
  · have hact := act_first2Bytes_extended maxFrameBytes h hform
    have hneed := need_begun (m := m) hform
    have hfirst : (machine maxFrameBytes).drain (.parseFirst2Bytes, m)
        (f.firstByte :: f.secondByte :: (f.form.extended f.payload.length ++ tail)) =
          (machine maxFrameBytes).drain (.parsePayloadSize, m.begun f)
            (f.form.extended f.payload.length ++ tail) := by
      rw [Machine.drain_of_ok (htwo _) hact]
      rfl
    have hlen : (machine maxFrameBytes).need (.parsePayloadSize, m.begun f) ≤
        (f.form.extended f.payload.length ++ tail).length := by
      change need (.parsePayloadSize, m.begun f) ≤ _
      rw [hneed, List.length_append]
      omega
    have htake : (f.form.extended f.payload.length ++ tail).take
        ((machine maxFrameBytes).need (.parsePayloadSize, m.begun f)) =
          f.form.extended f.payload.length := by
      change List.take (need (.parsePayloadSize, m.begun f)) _ = _
      rw [hneed, List.take_left]
    have hdrop : (f.form.extended f.payload.length ++ tail).drop
        ((machine maxFrameBytes).need (.parsePayloadSize, m.begun f)) = tail := by
      change List.drop (need (.parsePayloadSize, m.begun f)) _ = _
      rw [hneed, List.drop_left]
    rw [hfirst]
    by_cases hlarge : f.form = .large ∧ f.payload.length > maxFrameBytes
    · obtain ⟨e, he⟩ := Message.withPayloadSize_begun_large (m := m) hlarge.1 hlarge.2
      refine Or.inl ⟨e, Machine.drain_of_error hlen ?_, ?_⟩
      · rw [htake]
        change act maxFrameBytes (.parsePayloadSize, m.begun f) _ = .error e
        simp only [act, he]
      · intro hcheck
        have hle := (Message.checkSize_eq_ok hcheck).1
        simp only [Message.sized] at hle
        omega
    · have hfit : f.form = .large →
          f.payload.length < 2 ^ 63 ∧ f.payload.length ≤ maxFrameBytes := by
        intro hcase
        have hle : f.payload.length ≤ maxFrameBytes := by
          by_contra hgt
          exact hlarge ⟨hcase, by omega⟩
        exact ⟨by omega, hle⟩
      have hsize := Message.withPayloadSize_begun (m := m) hform hfit
      have hact' : act maxFrameBytes (.parsePayloadSize, m.begun f)
          (f.form.extended f.payload.length) = enter maxFrameBytes (m.sized f) := by
        simp only [act, hsize]
      unfold enter at hact'
      cases hcheck : (m.sized f).checkSize maxFrameBytes with
      | error e =>
        rw [hcheck] at hact'
        refine Or.inl ⟨e, Machine.drain_of_error hlen ?_, by simp⟩
        rw [htake]
        exact hact'
      | ok u =>
        rw [hcheck] at hact'
        refine Or.inr ⟨rfl, ?_⟩
        rw [← htake] at hact'
        rw [Machine.drain_of_ok hlen hact', hdrop]
        rfl

/-- A payload on the wire is read as the payload. -/
theorem unmasked_announced (m : Message) (f : WireFrame) :
    (m.announced f).unmasked f.payloadBytes = f.payload := by
  unfold Message.announced Message.unmasked WireFrame.payloadBytes
  cases hkey : f.key with
  | none => simp [Message.sized, hkey]
  | some key =>
    simp only [Message.withMask, Message.sized, hkey, Option.isSome_some, if_true]
    exact applyMask_applyMask key.1 f.payload

/-- Behind the length the key and the payload are read and the payload is delivered. -/
theorem drain_payload (m : Message) (f : WireFrame) (rest : List UInt8) :
    (machine maxFrameBytes).drain
        (if f.key.isSome then .parseMask else .parsePayload, m.sized f)
        (f.keyBytes ++ (f.payloadBytes ++ rest)) =
      (machine maxFrameBytes).resume
        (((m.announced f).deliverPayload f.payload).2,
          .ok ((.parseFirst2Bytes, ((m.announced f).deliverPayload f.payload).1), [])) rest := by
  have hpayload : (machine maxFrameBytes).drain (.parsePayload, m.announced f)
      (f.payloadBytes ++ rest) =
        (machine maxFrameBytes).resume
          (((m.announced f).deliverPayload f.payload).2,
            .ok ((.parseFirst2Bytes, ((m.announced f).deliverPayload f.payload).1), [])) rest := by
    have hneed : (machine maxFrameBytes).need (.parsePayload, m.announced f) =
        f.payloadBytes.length := by
      rw [WireFrame.length_payloadBytes]
      unfold Message.announced
      cases f.key <;> rfl
    have hact : (machine maxFrameBytes).act (.parsePayload, m.announced f)
        ((f.payloadBytes ++ rest).take
          ((machine maxFrameBytes).need (.parsePayload, m.announced f))) =
        .ok ((.parseFirst2Bytes, ((m.announced f).deliverPayload f.payload).1),
          ((m.announced f).deliverPayload f.payload).2) := by
      rw [hneed, List.take_left]
      simp only [machine, act, unmasked_announced]
    rw [Machine.drain_of_ok (by rw [hneed, List.length_append]; omega) hact, hneed, List.drop_left]
    rfl
  cases hkey : f.key with
  | none =>
    have hannounced : m.announced f = m.sized f := by simp only [Message.announced, hkey]
    rw [hannounced] at hpayload ⊢
    simp only [Option.isSome_none, Bool.false_eq_true, if_false, WireFrame.keyBytes, hkey,
      List.nil_append]
    exact hpayload
  | some key =>
    have hannounced : m.announced f = (m.sized f).withMask key.1 := by
      simp only [Message.announced, hkey]
    rw [hannounced] at hpayload ⊢
    have hlength := key.2
    have hneed : (machine maxFrameBytes).need (.parseMask, m.sized f) = key.1.length :=
      hlength.symm
    have hact : (machine maxFrameBytes).act (.parseMask, m.sized f)
        ((key.1 ++ (f.payloadBytes ++ rest)).take
          ((machine maxFrameBytes).need (.parseMask, m.sized f))) =
        .ok ((.parsePayload, (m.sized f).withMask key.1), []) := by
      rw [hneed, List.take_left]
      rfl
    simp only [Option.isSome_some, if_true, WireFrame.keyBytes, hkey]
    rw [Machine.drain_of_ok (by rw [hneed, List.length_append]; omega) hact, hneed, List.drop_left,
      hpayload]
    rfl

/-- A frame that may come here and whose length passes the test is taken off the stream. -/
theorem drain_of_admits (hmax : maxFrameBytes < 2 ^ 63) (h : m.Admits f)
    (hsize : (m.sized f).checkSize maxFrameBytes = .ok ()) (rest : List UInt8) :
    (machine maxFrameBytes).drain (.parseFirst2Bytes, m) (f.bytes ++ rest) =
      (machine maxFrameBytes).resume
        (((m.announced f).deliverPayload f.payload).2,
          .ok ((.parseFirst2Bytes, ((m.announced f).deliverPayload f.payload).1), [])) rest := by
  have hbytes : f.bytes ++ rest = f.firstByte :: f.secondByte ::
      (f.form.extended f.payload.length ++ (f.keyBytes ++ (f.payloadBytes ++ rest))) := by
    simp [WireFrame.bytes]
  rw [hbytes, ← drain_payload]
  rcases drain_length hmax h (f.keyBytes ++ (f.payloadBytes ++ rest)) with ⟨e, -, hbad⟩ | ⟨-, hok⟩
  · exact absurd hsize hbad
  · exact hok

/-- A frame whose length does not pass the test makes the parser fail. -/
theorem drain_of_not_checkSize (hmax : maxFrameBytes < 2 ^ 63) (h : m.Admits f)
    (hsize : (m.sized f).checkSize maxFrameBytes ≠ .ok ()) (rest : List UInt8) :
    ∃ e, (machine maxFrameBytes).drain (.parseFirst2Bytes, m) (f.bytes ++ rest) =
      ([], .error e) := by
  have hbytes : f.bytes ++ rest = f.firstByte :: f.secondByte ::
      (f.form.extended f.payload.length ++ (f.keyBytes ++ (f.payloadBytes ++ rest))) := by
    simp [WireFrame.bytes]
  rw [hbytes]
  rcases drain_length hmax h (f.keyBytes ++ (f.payloadBytes ++ rest)) with ⟨e, he, -⟩ | ⟨hok, -⟩
  · exact ⟨e, he⟩
  · exact absurd hok hsize

end Stream

end WS
