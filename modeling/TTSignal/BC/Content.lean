import Mathlib.Data.List.GetD
import TTSignal.BC.Buffer

/-!
# What the block buffer contains

Each operation of `BCBuffer` in terms of the byte string it holds: `Write` and `WriteTo`
append, the read operations take bytes off the front of what remains, and the block
boundaries and the split counters do not show. Appending is stated below the 32-bit range
of the counters; the read operations assume, as the source asserts, that the cursor has
not passed the used bytes.
-/

namespace BC.BCBuffer

open Blocks

variable {b : BCBuffer} {data : List UInt8} {n : ℕ}

/-- The used bytes are all backed by blocks. -/
@[simp] theorem length_content (b : BCBuffer) : b.content.length = b.nUsed := by
  have h := b.used_le
  rw [content, List.length_take, length_flatten b.length_block]
  omega

/-- A new buffer holds nothing. -/
@[simp] theorem content_empty : empty.content = [] := rfl

/-- A reset buffer holds nothing. -/
@[simp] theorem content_reset (b : BCBuffer) : b.reset.content = [] := by
  simp [content, reset]

/-- Allocating a block does not change what is held. -/
theorem content_makeRoom (b : BCBuffer) : b.makeRoom.content = b.content := by
  unfold makeRoom
  split
  · have hle : b.nUsed ≤ b.lstData.flatten.length := by
      rw [length_flatten b.length_block]
      exact b.used_le
    simp [content, pushBlock, List.take_append_of_le_length hle]
  · rfl

/-- Allocating a block does not change the number of used bytes. -/
@[simp] theorem nUsed_makeRoom (b : BCBuffer) : b.makeRoom.nUsed = b.nUsed := by
  unfold makeRoom
  split <;> rfl

/-- Allocating a block does not move the read cursor. -/
@[simp] theorem nCurrent_makeRoom (b : BCBuffer) : b.makeRoom.nCurrent = b.nCurrent := by
  unfold makeRoom
  split <;> rfl

/-- Storing data below the 32-bit range appends it. -/
theorem content_store {hfit hroom} (hlt : b.nUsed + data.length < 2 ^ 32) :
    (b.store data hfit hroom).content = b.content ++ data := by
  have hpos : 8192 * (b.nUsed / 8192) + b.nUsed % 8192 = b.nUsed := Nat.div_add_mod _ _
  have hle : b.nUsed ≤ b.lstData.flatten.length := by
    rw [length_flatten b.length_block]
    exact b.used_le
  simp only [content, store]
  rw [flatten_modify_splice b.length_block (by omega) hfit, hpos, Nat.mod_eq_of_lt hlt,
    take_splice data hle]

/-- One turn of the write loop appends the part it stores. -/
theorem content_writeStep (hlt : b.nUsed + data.length < 2 ^ 32) :
    (b.writeStep data).content = b.content ++ b.writePart data := by
  have hlen : (b.writePart data).length ≤ data.length := List.length_take_le' _ _
  rw [writeStep, content_store (by rw [nUsed_makeRoom]; omega), content_makeRoom]

/-- One turn of the write loop leaves the read cursor alone. -/
@[simp] theorem nCurrent_writeStep (b : BCBuffer) (data : List UInt8) :
    (b.writeStep data).nCurrent = b.nCurrent := by
  simp [writeStep, store]

/-- One turn of the write loop stores at least one byte. -/
theorem writePart_length_pos (b : BCBuffer) (hdata : data ≠ []) :
    0 < (b.writePart data).length := by
  have hlen := List.length_pos_iff.mpr hdata
  have hmod := Nat.mod_lt b.makeRoom.nUsed (show 0 < 8192 by norm_num)
  rw [writePart, List.length_take]
  omega

/-- The write loop with enough fuel appends all the data. -/
theorem content_writeLoop {fuel : ℕ} (hfuel : data.length ≤ fuel)
    (hlt : b.nUsed + data.length < 2 ^ 32) :
    (writeLoop fuel b data).content = b.content ++ data := by
  induction fuel generalizing b data with
  | zero =>
    have hdata : data = [] := List.length_eq_zero_iff.mp (by omega)
    simp [writeLoop, hdata]
  | succ fuel ih =>
    by_cases hdata : data = []
    · simp [writeLoop, hdata]
    · have hpos := b.writePart_length_pos hdata
      have hstep := content_writeStep hlt
      have hle : (b.writePart data).length ≤ data.length := List.length_take_le' _ _
      have hused : (b.writeStep data).nUsed = b.nUsed + (b.writePart data).length := by
        rw [← length_content, hstep, List.length_append, length_content]
      have hsplit : b.writePart data ++ data.drop (b.writePart data).length = data := by
        have htake : data.take (b.writePart data).length = b.writePart data := by
          rw [writePart, List.length_take, ← List.take_take, List.take_length]
        rw [← htake, List.length_take, Nat.min_eq_left hle, List.take_append_drop]
      rw [writeLoop, if_neg hdata,
        ih (by rw [List.length_drop]; omega) (by rw [hused, List.length_drop]; omega), hstep,
        List.append_assoc, hsplit]

/-- The write loop leaves the read cursor alone. -/
@[simp] theorem nCurrent_writeLoop (fuel : ℕ) (b : BCBuffer) (data : List UInt8) :
    (writeLoop fuel b data).nCurrent = b.nCurrent := by
  induction fuel generalizing b data with
  | zero => rfl
  | succ fuel ih =>
    rw [writeLoop]
    split
    · rfl
    · rw [ih, nCurrent_writeStep]

/-- `Write` appends, as long as the counters do not wrap. -/
theorem content_write (hlt : b.nUsed + data.length < 2 ^ 32) :
    (b.write data).content = b.content ++ data :=
  content_writeLoop le_rfl hlt

/-- `Write` leaves the read cursor alone. -/
@[simp] theorem nCurrent_write (b : BCBuffer) (data : List UInt8) :
    (b.write data).nCurrent = b.nCurrent :=
  nCurrent_writeLoop _ b data

/-- `Write` counts what it appends. -/
theorem nUsed_write (hlt : b.nUsed + data.length < 2 ^ 32) :
    (b.write data).nUsed = b.nUsed + data.length := by
  rw [← length_content, content_write hlt, List.length_append, length_content]

/-- One turn of the write loop counts what it stores, modulo the range of the counter. -/
theorem nUsed_writeStep (b : BCBuffer) (data : List UInt8) :
    (b.writeStep data).nUsed = (b.nUsed + (b.writePart data).length) % 2 ^ 32 := by
  simp [writeStep, store]

/-- `Write` counts its data modulo the range of the counter. -/
theorem nUsed_write_mod (b : BCBuffer) (data : List UInt8) :
    (b.write data).nUsed = (b.nUsed + data.length) % 2 ^ 32 := by
  have hloop : ∀ (fuel : ℕ) (b : BCBuffer) (data : List UInt8), data.length ≤ fuel →
      (writeLoop fuel b data).nUsed = (b.nUsed + data.length) % 2 ^ 32 := by
    intro fuel
    induction fuel with
    | zero =>
      intro b data hfuel
      rw [writeLoop, Nat.le_zero.mp hfuel, Nat.add_zero, Nat.mod_eq_of_lt b.used_lt]
    | succ fuel ih =>
      intro b data hfuel
      rw [writeLoop]
      split
      · rename_i hdata
        rw [hdata, List.length_nil, Nat.add_zero, Nat.mod_eq_of_lt b.used_lt]
      · rename_i hdata
        have hpos := b.writePart_length_pos hdata
        have hle : (b.writePart data).length ≤ data.length := List.length_take_le' _ _
        have hsum : (b.writePart data).length + (data.length - (b.writePart data).length) =
            data.length := by omega
        rw [ih _ _ (by rw [List.length_drop]; omega), nUsed_writeStep, List.length_drop,
          Nat.mod_add_mod, Nat.add_assoc, hsum]
  exact hloop data.length b data le_rfl

/-- Successive writes count their data modulo the range of the counter. -/
theorem nUsed_foldl_write_mod (b : BCBuffer) (parts : List (List UInt8)) :
    (parts.foldl write b).nUsed = (b.nUsed + parts.flatten.length) % 2 ^ 32 := by
  induction parts generalizing b with
  | nil =>
    rw [List.foldl_nil, List.flatten_nil, List.length_nil, Nat.add_zero,
      Nat.mod_eq_of_lt b.used_lt]
  | cons part parts ih =>
    rw [List.foldl_cons, ih, nUsed_write_mod, List.flatten_cons, List.length_append,
      Nat.mod_add_mod, Nat.add_assoc]

/-- Successive writes append their data in order. -/
theorem content_foldl_write {parts : List (List UInt8)}
    (hlt : b.nUsed + parts.flatten.length < 2 ^ 32) :
    (parts.foldl write b).content = b.content ++ parts.flatten := by
  induction parts generalizing b with
  | nil => simp
  | cons part parts ih =>
    rw [List.flatten_cons, List.length_append] at hlt
    have hpart : b.nUsed + part.length < 2 ^ 32 := by omega
    have hused := nUsed_write hpart
    rw [List.foldl_cons, ih (by omega), content_write hpart, List.flatten_cons,
      List.append_assoc]

/-- The block loop of `WriteTo` appends the first `nDataLen` bytes of the blocks. -/
theorem content_writeToLoop {blocks : List (List UInt8)} {dest : BCBuffer}
    (hsize : ∀ block ∈ blocks, block.length = 8192) (hn : n ≤ 8192 * blocks.length)
    (hlt : dest.nUsed + n < 2 ^ 32) :
    (writeToLoop blocks n dest).content = dest.content ++ blocks.flatten.take n := by
  induction blocks generalizing n dest with
  | nil => simp [writeToLoop]
  | cons block blocks ih =>
    have hblock := hsize block (by simp)
    by_cases hzero : n = 0
    · simp [writeToLoop, hzero]
    · have hlen : (block.take (min n 8192)).length = min n 8192 := by
        rw [List.length_take, hblock]
        omega
      have hfit : dest.nUsed + (block.take (min n 8192)).length < 2 ^ 32 := by omega
      have hused := nUsed_write hfit
      have hfirst : block.take (min n 8192) = block.take n := by
        rw [← hblock, Nat.min_comm, List.take_eq_take_iff]
        omega
      have hrest : n - min n 8192 = n - 8192 := by omega
      rw [List.length_cons] at hn
      rw [writeToLoop, if_neg hzero, ih (fun c hc => hsize c (by simp [hc])) (by omega)
        (by rw [hused]; omega), content_write hfit, List.append_assoc, List.flatten_cons,
        List.take_append, hblock, hfirst, hrest]

/-- The block loop of `WriteTo` counts what it copies modulo the range of the counter. -/
theorem nUsed_writeToLoop_mod {blocks : List (List UInt8)} (dest : BCBuffer)
    (hsize : ∀ block ∈ blocks, block.length = 8192) (hn : n ≤ 8192 * blocks.length) :
    (writeToLoop blocks n dest).nUsed = (dest.nUsed + n) % 2 ^ 32 := by
  induction blocks generalizing n dest with
  | nil =>
    rw [List.length_nil] at hn
    rw [writeToLoop, show n = 0 by omega, Nat.add_zero, Nat.mod_eq_of_lt dest.used_lt]
  | cons block blocks ih =>
    have hblock := hsize block (by simp)
    rw [List.length_cons] at hn
    by_cases hzero : n = 0
    · rw [writeToLoop, if_pos hzero, hzero, Nat.add_zero, Nat.mod_eq_of_lt dest.used_lt]
    · rw [writeToLoop, if_neg hzero, ih _ (fun c hc => hsize c (by simp [hc])) (by omega),
        nUsed_write_mod, List.length_take, hblock, Nat.mod_add_mod]
      congr 1
      omega

/-- The block loop of `WriteTo` leaves the read cursor of the destination alone. -/
@[simp] theorem nCurrent_writeToLoop (blocks : List (List UInt8)) (n : ℕ) (dest : BCBuffer) :
    (writeToLoop blocks n dest).nCurrent = dest.nCurrent := by
  induction blocks generalizing n dest with
  | nil => rfl
  | cons block blocks ih =>
    rw [writeToLoop]
    split
    · rfl
    · rw [ih, nCurrent_write]

/-- `WriteTo` appends everything the source holds to the destination. -/
theorem content_writeTo {dest : BCBuffer} (hlt : dest.nUsed + b.nUsed < 2 ^ 32) :
    (b.writeTo dest).content = dest.content ++ b.content :=
  content_writeToLoop b.length_block b.used_le hlt

/-- `WriteTo` counts everything the source holds modulo the range of the counter. -/
theorem nUsed_writeTo_mod (b dest : BCBuffer) :
    (b.writeTo dest).nUsed = (dest.nUsed + b.nUsed) % 2 ^ 32 :=
  nUsed_writeToLoop_mod dest b.length_block b.used_le

/-- `WriteTo` leaves the read cursor of the destination alone. -/
@[simp] theorem nCurrent_writeTo (b dest : BCBuffer) :
    (b.writeTo dest).nCurrent = dest.nCurrent :=
  nCurrent_writeToLoop _ _ _

/-- With the cursor inside the used bytes the remaining length is what remains. -/
theorem remainingLength_eq (hcur : b.nCurrent ≤ b.nUsed) :
    b.remainingLength = b.nUsed - b.nCurrent := by
  have h := b.used_lt
  rw [remainingLength]
  omega

/-- The remaining bytes are as many as the remaining length says. -/
theorem length_remaining (hcur : b.nCurrent ≤ b.nUsed) :
    b.remaining.length = b.remainingLength := by
  rw [remaining, List.length_drop, length_content, remainingLength_eq hcur]

/-- Advancing within the used bytes takes bytes off the remaining ones. -/
theorem remaining_advance (hle : b.nCurrent + n ≤ b.nUsed) :
    (b.advance n).remaining = b.remaining.drop n := by
  have h := b.used_lt
  have hcur : (b.nCurrent + n) % 2 ^ 32 = b.nCurrent + n := Nat.mod_eq_of_lt (by omega)
  simp only [remaining, advance, hcur, List.drop_drop]
  rfl

/-- Advancing by nothing changes nothing. -/
theorem advance_zero (hcur : b.nCurrent ≤ b.nUsed) : b.advance 0 = b := by
  have h := b.used_lt
  have hmod : (b.nCurrent + 0) % 2 ^ 32 = b.nCurrent := Nat.mod_eq_of_lt (by omega)
  rw [advance, hmod]

/-- Advancing twice advances by the sum. -/
theorem advance_advance (b : BCBuffer) (n m : ℕ) :
    (b.advance n).advance m = b.advance (n + m) := by
  simp only [advance, Nat.mod_add_mod, Nat.add_assoc]

/-- Bytes of the cursor's block, as far as they are used, are the next remaining bytes. -/
theorem take_block_eq_remaining (hcur : b.nCurrent < b.nUsed)
    (hblock : n ≤ 8192 - b.nCurrent % 8192) (hused : n ≤ b.nUsed - b.nCurrent) :
    ((b.lstData.getD (b.nCurrent / 8192) []).drop (b.nCurrent % 8192)).take n =
      b.remaining.take n := by
  have hle := b.used_le
  have hpos : 8192 * (b.nCurrent / 8192) + b.nCurrent % 8192 = b.nCurrent :=
    Nat.div_add_mod _ _
  have hidx : b.nCurrent / 8192 < b.lstData.length := by omega
  have hlen : (b.lstData.getD (b.nCurrent / 8192) []).length = 8192 := by
    rw [List.getD_eq_getElem _ _ hidx]
    exact b.length_block _ (List.getElem_mem hidx)
  have hdrop := drop_flatten b.length_block hidx (Nat.le_of_lt (Nat.mod_lt b.nCurrent
    (show 0 < 8192 by norm_num)))
  rw [hpos] at hdrop
  rw [remaining, content, List.drop_take, List.take_take, Nat.min_eq_left hused, hdrop,
    List.take_append_of_le_length (by rw [List.length_drop, hlen]; omega)]

/-- `PeekBlock` returns the next remaining bytes, up to the end of the block. -/
theorem peekBlock_eq (hcur : b.nCurrent ≤ b.nUsed) :
    b.peekBlock n = b.remaining.take (min n (8192 - b.nCurrent % 8192)) := by
  have hrem := remainingLength_eq hcur
  rcases Nat.eq_or_lt_of_le hcur with heq | hlt
  · have hnil : b.remaining = [] := by
      rw [remaining, List.drop_eq_nil_iff, length_content, heq]
    simp [peekBlock, hrem, heq, hnil]
  · rw [peekBlock, take_block_eq_remaining hlt (by omega) (by omega), hrem]
    apply List.take_eq_take_iff.mpr
    rw [length_remaining hcur, hrem]
    omega

/-- `ReadBlock` returns what `PeekBlock` shows and passes exactly that. -/
theorem readBlock_eq (hcur : b.nCurrent ≤ b.nUsed) :
    b.readBlock n = (b.peekBlock n, b.advance (b.peekBlock n).length) := by
  have hrem := remainingLength_eq hcur
  have hlen :
      (b.peekBlock n).length = min n (min (8192 - b.nCurrent % 8192) b.remainingLength) := by
    rw [peekBlock_eq hcur, List.length_take, length_remaining hcur]
    omega
  rw [readBlock, hlen]

/-- The read loop with enough fuel copies the next remaining bytes and passes them. -/
theorem readLoop_eq {fuel : ℕ} (hcur : b.nCurrent ≤ b.nUsed) (hfuel : n ≤ fuel)
    (hn : n ≤ b.nUsed - b.nCurrent) : readLoop fuel b n = (b.remaining.take n, b.advance n) := by
  induction fuel generalizing b n with
  | zero =>
    obtain rfl : n = 0 := by omega
    simp [readLoop, advance_zero hcur]
  | succ fuel ih =>
    by_cases hzero : n = 0
    · simp [readLoop, hzero, advance_zero hcur]
    · have hlt : b.nCurrent < b.nUsed ∧ 0 < n := by omega
      have hpos := Nat.mod_lt b.nCurrent (show 0 < 8192 by norm_num)
      have hused := b.used_lt
      rw [readLoop, if_pos hlt]
      simp only
      set k := min n (8192 - b.nCurrent % 8192)
      have hcur' : (b.advance k).nCurrent = b.nCurrent + k := Nat.mod_eq_of_lt (by omega)
      have hused' : (b.advance k).nUsed = b.nUsed := rfl
      have hsum : k + (n - k) = n := by omega
      rw [ih (by omega) (by omega) (by omega), take_block_eq_remaining hlt.1 (by omega) (by omega),
        remaining_advance (by omega), advance_advance, ← List.take_add, hsum]

/-- `Read` copies the next remaining bytes and passes them. -/
theorem read_eq (hcur : b.nCurrent ≤ b.nUsed) :
    b.read n = (b.remaining.take n, b.advance (min n (b.nUsed - b.nCurrent))) := by
  have hrem := remainingLength_eq hcur
  rw [read, readLoop_eq hcur (Nat.min_le_left _ _) (by omega), hrem]
  congr 1
  rw [List.take_eq_take_iff, length_remaining hcur, hrem]
  omega

/-- `Read` takes what it returns off the front of what remains. -/
theorem read_spec (hcur : b.nCurrent ≤ b.nUsed) (hn : n ≤ b.remaining.length) :
    (b.read n).1 = b.remaining.take n ∧ (b.read n).2.remaining = b.remaining.drop n ∧
      (b.read n).2.nCurrent ≤ (b.read n).2.nUsed := by
  have hused := b.used_lt
  have hlen := length_remaining hcur
  have hrem := remainingLength_eq hcur
  have hmin : min n (b.nUsed - b.nCurrent) = n := by omega
  rw [read_eq hcur, hmin]
  refine ⟨rfl, remaining_advance (by omega), ?_⟩
  change (b.nCurrent + n) % 2 ^ 32 ≤ b.nUsed
  omega

/-- `ReadBlock` takes what it returns off the front of what remains. -/
theorem readBlock_spec (hcur : b.nCurrent ≤ b.nUsed) :
    (b.readBlock n).1 = b.remaining.take (min n (8192 - b.nCurrent % 8192)) ∧
      (b.readBlock n).2.remaining = b.remaining.drop (b.readBlock n).1.length ∧
        (b.readBlock n).2.nCurrent ≤ (b.readBlock n).2.nUsed := by
  have hused := b.used_lt
  have hlen := length_remaining hcur
  have hrem := remainingLength_eq hcur
  have hpeek : (b.peekBlock n).length ≤ b.nUsed - b.nCurrent := by
    rw [peekBlock_eq hcur, List.length_take]
    omega
  rw [readBlock_eq hcur]
  refine ⟨peekBlock_eq hcur, remaining_advance (by omega), ?_⟩
  change (b.nCurrent + (b.peekBlock n).length) % 2 ^ 32 ≤ b.nUsed
  omega

/-- `ReadBlock` returns nothing only when nothing is asked for or nothing remains. -/
theorem readBlock_eq_nil (hcur : b.nCurrent ≤ b.nUsed) :
    (b.readBlock n).1 = [] ↔ n = 0 ∨ b.remaining = [] := by
  have hmod := Nat.mod_lt b.nCurrent (show 0 < 8192 by norm_num)
  rw [(readBlock_spec hcur).1, List.take_eq_nil_iff]
  constructor
  · rintro (h | h)
    · exact Or.inl (by omega)
    · exact Or.inr h
  · rintro (h | h)
    · exact Or.inl (by omega)
    · exact Or.inr h

/-- The loop of `RemoveConsumed` with enough fuel appends what remains. -/
theorem content_copyLoop {fuel : ℕ} {dest : BCBuffer} (hcur : b.nCurrent ≤ b.nUsed)
    (hfuel : b.remaining.length ≤ fuel) (hlt : dest.nUsed + b.remaining.length < 2 ^ 32) :
    (copyLoop fuel b dest).content = dest.content ++ b.remaining := by
  induction fuel generalizing b dest with
  | zero =>
    have hnil : b.remaining = [] := List.length_eq_zero_iff.mp (by omega)
    simp [copyLoop, hnil]
  | succ fuel ih =>
    rw [copyLoop]
    split
    · rename_i hread
      rcases (readBlock_eq_nil hcur).mp hread with h | h
      · exact absurd h (by norm_num)
      · rw [h, List.append_nil]
    · rename_i hread
      obtain ⟨hpart, hrest, hcur'⟩ := readBlock_spec (n := 8192) hcur
      have hpos := List.length_pos_iff.mpr hread
      have hle : (b.readBlock 8192).1.length ≤ b.remaining.length := by
        rw [hpart]
        exact List.length_take_le' _ _
      have hfront : b.remaining.take (b.readBlock 8192).1.length = (b.readBlock 8192).1 := by
        rw [hpart, List.length_take, ← List.take_take, List.take_length]
      have hfit : dest.nUsed + (b.readBlock 8192).1.length < 2 ^ 32 := by omega
      have hused := nUsed_write hfit
      rw [ih hcur' (by rw [hrest, List.length_drop]; omega)
        (by rw [hrest, List.length_drop, hused]; omega), content_write hfit, hrest,
        List.append_assoc]
      nth_rewrite 1 [← hfront]
      rw [List.take_append_drop]

/-- The loop of `RemoveConsumed` leaves the read cursor of the destination alone. -/
@[simp] theorem nCurrent_copyLoop (fuel : ℕ) (b dest : BCBuffer) :
    (copyLoop fuel b dest).nCurrent = dest.nCurrent := by
  induction fuel generalizing b dest with
  | zero => rfl
  | succ fuel ih =>
    rw [copyLoop]
    split
    · rfl
    · rw [ih, nCurrent_write]

/-- `RemoveConsumed` puts the read cursor at the front. -/
@[simp] theorem nCurrent_removeConsumed (b : BCBuffer) : b.removeConsumed.nCurrent = 0 := by
  unfold removeConsumed
  split
  · rw [nCurrent_copyLoop]
    rfl
  · omega

/-- `RemoveConsumed` keeps exactly what remains. -/
theorem content_removeConsumed (hcur : b.nCurrent ≤ b.nUsed) :
    b.removeConsumed.content = b.remaining := by
  have hused := b.used_lt
  have hlen := length_remaining hcur
  have hrem := remainingLength_eq hcur
  unfold removeConsumed
  split
  · rw [content_copyLoop hcur (by omega)
      (by rw [show empty.nUsed = 0 from rfl]; omega), content_empty, List.nil_append]
  · rename_i hzero
    rw [remaining, Nat.eq_zero_of_not_pos hzero, List.drop_zero]

end BC.BCBuffer
