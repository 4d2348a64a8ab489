import TTSignal.BC.Shared

/-!
# Cutting slices off a buffer

`BCBuffer::Extract` moves blocks from one buffer to another. The block that it passes on is
the front of the deque, and the block that it removes is the back. The slice therefore holds
the first block again and again, and the buffer keeps its first blocks.
-/

namespace Blocks

variable {α : Type*} {size : ℕ} {blocks : List (List α)}

/-- The element at a flat position stands in its block. -/
theorem getElem?_flatten (hsize : ∀ b ∈ blocks, b.length = size) (hpos : 0 < size) (i : ℕ) :
    blocks.flatten[i]? = (blocks.getD (i / size) [])[i % size]? := by
  induction blocks generalizing i with
  | nil => simp
  | cons b blocks ih =>
    have hb := hsize b (by simp)
    have hrest := ih fun c hc => hsize c (by simp [hc])
    rw [List.flatten_cons]
    rcases Nat.lt_or_ge i size with hi | hi
    · rw [List.getElem?_append_left (by omega), Nat.div_eq_of_lt hi, Nat.mod_eq_of_lt hi]
      rfl
    · rw [List.getElem?_append_right (by omega), hb, hrest, Nat.div_eq_sub_div hpos hi,
        Nat.mod_eq_sub_mod hi]
      rfl

/-- Up to some position the first string repeats the first `size` elements of the second one,
and from there on it is the second one again from its beginning. -/
structure Echoes (size : ℕ) (echo l : List α) (stop : ℕ) : Prop where
  /-- The strings are equally long. -/
  length_eq : echo.length = l.length
  /-- The repetition. -/
  repeats : ∀ i < stop, echo[i]? = l[i % size]?
  /-- The new beginning. -/
  restarts : ∀ i < l.length, stop ≤ i → echo[i]? = l[i - stop]?
  /-- The repetition ends with a block or with the string. -/
  whole : size ∣ stop ∨ stop = l.length
  /-- It does not go beyond the string. -/
  stop_le : stop ≤ l.length

namespace Echoes

variable {echo l first : List α} {stop : ℕ}

/-- A string is its own echo without repetition. -/
theorem refl (l : List α) : Echoes size l l 0 :=
  ⟨rfl, by simp, fun _ _ _ => rfl, Or.inl (dvd_zero size), Nat.zero_le _⟩

/-- An echo with some repetition is the string itself exactly when the string repeats its
first `size` elements. -/
theorem eq_iff (h : Echoes size echo l stop) (hstop : 0 < stop) :
    echo = l ↔ ∀ i < l.length, l[i]? = l[i % size]? := by
  have hmod : ∀ i < l.length, stop ≤ i → (i - stop) % size = i % size := by
    intro i hi hle
    rcases h.whole with ⟨k, rfl⟩ | rfl
    · obtain ⟨j, rfl⟩ := Nat.exists_eq_add_of_le hle
      rw [Nat.add_sub_cancel_left, Nat.mul_add_mod]
    · omega
  constructor
  · rintro rfl i
    induction i using Nat.strongRecOn with
    | ind i ih =>
      intro hi
      rcases Nat.lt_or_ge i stop with hlt | hle
      · exact h.repeats i hlt
      · calc
          echo[i]? = echo[i - stop]? := h.restarts i hi hle
          _ = echo[(i - stop) % size]? := ih (i - stop) (by omega) (by omega)
          _ = echo[i % size]? := by rw [hmod i hi hle]
  · intro hall
    apply List.ext_getElem?
    intro i
    rcases Nat.lt_or_ge i l.length with hi | hi
    · rcases Nat.lt_or_ge i stop with hlt | hle
      · rw [h.repeats i hlt, hall i hi]
      · rw [h.restarts i hi hle, hall (i - stop) (by omega), hmod i hi hle, hall i hi]
    · rw [List.getElem?_eq_none hi, List.getElem?_eq_none (by rw [h.length_eq]; exact hi)]

/-- More repetition in front of an echo of the string without its end. -/
theorem append (h : Echoes size echo (l.take (l.length - first.length)) stop)
    (hlength : first.length ≤ l.length)
    (hwhole : size ∣ first.length ∨ first.length = l.length)
    (hfirst : ∀ i < first.length, first[i]? = l[i % size]?) :
    Echoes size (first ++ echo) l (first.length + stop) := by
  have htake : (l.take (l.length - first.length)).length = l.length - first.length := by
    rw [List.length_take]
    omega
  have hecho := h.length_eq
  rw [htake] at hecho
  have hstop := h.stop_le
  rw [htake] at hstop
  refine ⟨?_, ?_, ?_, ?_, by omega⟩
  · rw [List.length_append]
    omega
  · intro i hi
    rcases Nat.lt_or_ge i first.length with hlt | hle
    · rw [List.getElem?_append_left hlt, hfirst i hlt]
    · have hmod : (i - first.length) % size = i % size := by
        obtain ⟨k, hk⟩ := hwhole.resolve_right (by omega)
        obtain ⟨j, rfl⟩ := Nat.exists_eq_add_of_le hle
        rw [Nat.add_sub_cancel_left, hk, Nat.mul_add_mod]
      have hle' := Nat.mod_le (i - first.length) size
      rw [List.getElem?_append_right hle, h.repeats _ (by omega),
        List.getElem?_take_of_lt (by omega), hmod]
  · intro i hi hle
    rw [List.getElem?_append_right (by omega), h.restarts _ (by omega) (by omega),
      List.getElem?_take_of_lt (by omega)]
    congr 1
    omega
  · rcases hwhole with hfull | hall
    · rcases h.whole with hdvd | hlast
      · exact Or.inl (Nat.dvd_add hfull hdvd)
      · exact Or.inr (by omega)
    · exact Or.inr (by omega)

end Echoes

end Blocks

namespace BC

open Blocks

namespace SharedBuffer

variable (heap : Heap) (b : SharedBuffer)

/-- `BCBuffer::GetBlockCount`. -/
def getBlockCount : ℕ := b.lstData.length % 2 ^ 32

/-- The used bytes. -/
def content : List UInt8 := (b.lstData.map heap.block).flatten.take b.nUsed

/-- The used bytes the read cursor has not passed. -/
def remaining : List UInt8 := (b.content heap).drop b.nCurrent

/-- The number of blocks with used bytes, as `Extract` computes it. -/
def usedBlocks : ℕ := (b.nUsed + 8191) % 2 ^ 32 / 8192

/-- One turn of the loop of `Extract`, on the slice and the buffer. -/
def moveBlock (p : SharedBuffer × SharedBuffer) : SharedBuffer × SharedBuffer :=
  ({ p.1 with
      lstData := p.1.lstData ++ [p.2.lstData.headD 0]
      nSize := (p.1.nSize + 8192) % 2 ^ 32 },
    { p.2 with lstData := p.2.lstData.dropLast })

/-- The loop of `Extract`. -/
def moveBlocks (nExtract : ℕ) : SharedBuffer × SharedBuffer := moveBlock^[nExtract] (empty, b)

/-- `BCBuffer::Extract`: the number of blocks, the slice and the buffer. -/
def extract (nBlocks : ℕ) : ℕ × SharedBuffer × SharedBuffer :=
  if b.nUsed = 0 then (0, empty, b.rewind 0)
  else
    let nExtract := min nBlocks b.usedBlocks
    let slice := ((b.rewind 0).moveBlocks nExtract).1
    let rest := ((b.rewind 0).moveBlocks nExtract).2
    if nExtract < b.usedBlocks then
      (nExtract, { slice with nUsed := slice.nSize },
        { rest with
          nUsed := (rest.nUsed + 2 ^ 32 - slice.nSize) % 2 ^ 32
          nSize := (rest.nSize + 2 ^ 32 - slice.nSize) % 2 ^ 32 })
    else
      (nExtract, { slice with nUsed := rest.nUsed },
        { rest with nUsed := 0, nSize := (rest.nSize + 2 ^ 32 - slice.nSize) % 2 ^ 32 })

/-- What holds of the blocks and the counters of every buffer. -/
structure WellFormed : Prop where
  /-- Every block has the block size. -/
  length_block : ∀ a ∈ b.lstData, (heap.block a).length = 8192
  /-- The number of used bytes is a 32-bit value. -/
  used_lt : b.nUsed < 2 ^ 32
  /-- Used bytes lie inside the blocks. -/
  used_le : b.nUsed ≤ 8192 * b.lstData.length
  /-- The cursor has not passed the used bytes. -/
  current_le : b.nCurrent ≤ b.nUsed

end SharedBuffer

section Extract

variable {heap : Heap} {b : SharedBuffer} {v : BCBuffer}

/-- A shared buffer is well formed because the buffer that it shows is. -/
theorem Shows.wellFormed (h : Shows heap b v) (hcur : v.nCurrent ≤ v.nUsed) :
    b.WellFormed heap := by
  have hlength := congrArg List.length h.blocks_eq
  rw [List.length_map] at hlength
  refine ⟨fun a ha => ?_, h.used_eq ▸ v.used_lt, ?_, ?_⟩
  · exact v.length_block _ (h.blocks_eq ▸ List.mem_map_of_mem ha)
  · rw [h.used_eq, hlength]
    exact v.used_le
  · rw [h.current_eq, h.used_eq]
    exact hcur

namespace SharedBuffer

/-- The loop of `Extract` copies the front block and drops blocks from the back. -/
theorem moveBlocks_eq {n : ℕ} (hn : n ≤ b.lstData.length) :
    b.moveBlocks n =
      (⟨List.replicate n (b.lstData.headD 0), 8192 * n % 2 ^ 32, 0, 0⟩,
        { b with lstData := b.lstData.take (b.lstData.length - n) }) := by
  induction n with
  | zero => simp [moveBlocks, empty]
  | succ n ih =>
    have hhead : (b.lstData.take (b.lstData.length - n)).headD 0 = b.lstData.headD 0 := by
      cases hblocks : b.lstData with
      | nil => simp
      | cons a l =>
        have hpos : 0 < (a :: l).length - n := by
          rw [hblocks] at hn
          omega
        obtain ⟨k, hk⟩ := Nat.exists_eq_succ_of_ne_zero hpos.ne'
        rw [hk]
        rfl
    have hstep : b.moveBlocks (n + 1) = moveBlock (b.moveBlocks n) :=
      Function.iterate_succ_apply' ..
    rw [hstep, ih (by omega), moveBlock, hhead]
    simp only [List.replicate_succ', Prod.mk.injEq, mk.injEq, true_and, and_true]
    constructor
    · omega
    · rw [List.dropLast_eq_take, List.length_take, List.take_take]
      congr 1
      omega

/-- Blocks with used bytes are blocks. -/
theorem WellFormed.usedBlocks_le (hb : b.WellFormed heap) :
    b.usedBlocks ≤ b.lstData.length := by
  have hlt := hb.used_lt
  have hle := hb.used_le
  simp only [usedBlocks]
  omega

/-- What `Extract` does to a buffer with used blocks. -/
theorem WellFormed.extract_eq (hb : b.WellFormed heap) {n : ℕ} (hpos : 0 < b.usedBlocks) :
    ∃ size size', b.extract n =
      (min n b.usedBlocks,
        ⟨List.replicate (min n b.usedBlocks) (b.lstData.headD 0), size,
          min b.nUsed (8192 * min n b.usedBlocks), 0⟩,
        ⟨b.lstData.take (b.lstData.length - min n b.usedBlocks), size',
          b.nUsed - 8192 * min n b.usedBlocks, 0⟩) := by
  have hlt := hb.used_lt
  have hlength : min n b.usedBlocks ≤ (b.rewind 0).lstData.length :=
    (min_le_right _ _).trans hb.usedBlocks_le
  have hused : b.nUsed ≠ 0 ∧ 8192 * b.usedBlocks < b.nUsed + 8192 ∧
      b.nUsed ≤ 8192 * b.usedBlocks := by
    simp only [usedBlocks] at hpos ⊢
    omega
  rw [extract, if_neg hused.1]
  simp only [moveBlocks_eq hlength]
  by_cases hless : min n b.usedBlocks < b.usedBlocks
  · have hsize : 8192 * min n b.usedBlocks % 2 ^ 32 = 8192 * min n b.usedBlocks :=
      Nat.mod_eq_of_lt (by omega)
    have hslice : min b.nUsed (8192 * min n b.usedBlocks) = 8192 * min n b.usedBlocks :=
      min_eq_right (by omega)
    have hrest : (b.nUsed + 2 ^ 32 - 8192 * min n b.usedBlocks) % 2 ^ 32 =
        b.nUsed - 8192 * min n b.usedBlocks := by omega
    rw [if_pos hless, hsize, hslice]
    simp only [rewind, Nat.zero_min, hrest]
    exact ⟨_, _, rfl⟩
  · have hall : min n b.usedBlocks = b.usedBlocks := by omega
    have hslice : min b.nUsed (8192 * b.usedBlocks) = b.nUsed := min_eq_left hused.2.2
    have hrest : b.nUsed - 8192 * b.usedBlocks = 0 := by omega
    rw [if_neg hless, hall, hslice, hrest]
    simp only [rewind, Nat.zero_min]
    exact ⟨_, _, rfl⟩

/-- A buffer without used blocks keeps all its blocks, and afterwards nothing is used. -/
theorem WellFormed.extract_unused (hb : b.WellFormed heap) (hzero : b.usedBlocks = 0) (n : ℕ) :
    (b.extract n).2.2.WellFormed heap ∧ (b.extract n).2.2.lstData = b.lstData ∧
      (b.extract n).2.2.usedBlocks = 0 := by
  rw [extract]
  split
  · exact ⟨⟨hb.length_block, hb.used_lt, hb.used_le, min_le_right _ _⟩, rfl, hzero⟩
  · simp only [hzero, Nat.min_zero, lt_irrefl, if_false, moveBlocks, Function.iterate_zero, id]
    exact ⟨⟨hb.length_block, by norm_num, Nat.zero_le _, by simp [rewind]⟩, rfl,
      by norm_num [usedBlocks]⟩

/-- The content is as long as the used bytes. -/
theorem WellFormed.length_content (hb : b.WellFormed heap) :
    (b.content heap).length = b.nUsed := by
  have hblocks : ∀ block ∈ b.lstData.map heap.block, block.length = 8192 := by
    intro block hblock
    obtain ⟨a, ha, rfl⟩ := List.mem_map.mp hblock
    exact hb.length_block a ha
  have hle := hb.used_le
  rw [content, List.length_take, length_flatten hblocks, List.length_map]
  omega

/-- A slice of copies of the front block repeats the first bytes of the buffer. -/
theorem WellFormed.getElem?_copies (hb : b.WellFormed heap) (size : ℕ) {n used i : ℕ}
    (hused : used ≤ 8192 * n) (hle : used ≤ b.nUsed) (hi : i < used) :
    (remaining heap ⟨List.replicate n (b.lstData.headD 0), size, used, 0⟩)[i]? =
      (b.content heap)[i % 8192]? := by
  have hblocks : ∀ block ∈ b.lstData.map heap.block, block.length = 8192 := by
    intro block hblock
    obtain ⟨a, ha, rfl⟩ := List.mem_map.mp hblock
    exact hb.length_block a ha
  have hmod := Nat.mod_le i 8192
  have hfull := hb.used_le
  cases hdata : b.lstData with
  | nil =>
    rw [hdata, List.length_nil] at hfull
    omega
  | cons a l =>
    rw [hdata] at hblocks
    have hcopies : ∀ block ∈ (List.replicate n a).map heap.block, block.length = 8192 := by
      intro block hblock
      rw [List.map_replicate] at hblock
      rw [List.eq_of_mem_replicate hblock]
      exact hblocks _ (by simp)
    have hindex : i / 8192 < n := by omega
    simp only [remaining, content, hdata, List.headD_cons, List.drop_zero]
    rw [List.getElem?_take_of_lt hi, List.getElem?_take_of_lt (by omega),
      getElem?_flatten hcopies (by norm_num), getElem?_flatten hblocks (by norm_num),
      Nat.mod_mod, Nat.div_eq_of_lt (Nat.mod_lt i (by norm_num)), List.map_replicate,
      List.getD_replicate _ hindex]
    rfl

/-- What is left when blocks are extracted. -/
theorem WellFormed.rest (hb : b.WellFormed heap) (n size : ℕ) :
    (⟨b.lstData.take (b.lstData.length - n), size, b.nUsed - 8192 * n, 0⟩ :
      SharedBuffer).WellFormed heap := by
  have hlt := hb.used_lt
  have hle := hb.used_le
  refine ⟨fun a ha => hb.length_block a (List.mem_of_mem_take ha), ?_, ?_, Nat.zero_le _⟩
  · change b.nUsed - 8192 * n < 2 ^ 32
    omega
  · simp only [List.length_take]
    omega

/-- The rest holds the first bytes of the buffer, not the last ones. -/
theorem WellFormed.content_rest (hb : b.WellFormed heap) (n size : ℕ) :
    content heap ⟨b.lstData.take (b.lstData.length - n), size, b.nUsed - 8192 * n, 0⟩ =
      (b.content heap).take (b.nUsed - 8192 * n) := by
  have hblocks : ∀ block ∈ (b.lstData.take (b.lstData.length - n)).map heap.block,
      block.length = 8192 := by
    intro block hblock
    obtain ⟨a, ha, rfl⟩ := List.mem_map.mp hblock
    exact hb.length_block a (List.mem_of_mem_take ha)
  have hle := hb.used_le
  have hflat : (b.lstData.map heap.block).flatten =
      ((b.lstData.take (b.lstData.length - n)).map heap.block).flatten ++
        ((b.lstData.drop (b.lstData.length - n)).map heap.block).flatten := by
    rw [← List.flatten_append, ← List.map_append, List.take_append_drop]
  have hlength := length_flatten hblocks
  rw [List.length_map, List.length_take] at hlength
  simp only [content]
  rw [List.take_take, Nat.min_eq_left (Nat.sub_le _ _), hflat,
    List.take_append_of_le_length (by omega)]

/-- A slice of so many used blocks has been cut off a buffer. -/
structure IsCut (heap : Heap) (b : SharedBuffer) (m : ℕ) (slice rest : SharedBuffer) : Prop where
  /-- The rest is well formed. -/
  wellFormed : rest.WellFormed heap
  /-- It is at its beginning. -/
  current_eq : rest.nCurrent = 0
  /-- Blocks are gone. -/
  length_eq : rest.lstData.length = b.lstData.length - m
  /-- Used blocks are gone. -/
  usedBlocks_eq : rest.usedBlocks = b.usedBlocks - m
  /-- The end of the content is gone. -/
  content_eq : rest.content heap =
    (b.content heap).take ((b.content heap).length - (slice.remaining heap).length)
  /-- The slice repeats the first block. -/
  copies : ∀ i < (slice.remaining heap).length,
    (slice.remaining heap)[i]? = (b.content heap)[i % 8192]?
  /-- The slice is not empty. -/
  pos : 0 < (slice.remaining heap).length
  /-- It is not longer than the content. -/
  le : (slice.remaining heap).length ≤ (b.content heap).length
  /-- It ends with a block or with the content. -/
  whole : 8192 ∣ (slice.remaining heap).length ∨
    (slice.remaining heap).length = (b.content heap).length

/-- A slice has all bytes that it counts. -/
theorem WellFormed.length_copies (hb : b.WellFormed heap) (size : ℕ) {n used : ℕ}
    (hused : used ≤ 8192 * n) (hle : used ≤ b.nUsed) :
    (remaining heap ⟨List.replicate n (b.lstData.headD 0), size, used, 0⟩).length = used := by
  apply Nat.le_antisymm
  · simp only [remaining, content, List.drop_zero]
    exact List.length_take_le _ _
  · by_contra hshort
    have hcopy := hb.getElem?_copies size hused hle (Nat.not_le.mp hshort)
    rw [List.getElem?_eq_none (Nat.le_refl _)] at hcopy
    have hnone := List.getElem?_eq_none_iff.mp hcopy.symm
    have hmod := Nat.mod_le
      (remaining heap ⟨List.replicate n (b.lstData.headD 0), size, used, 0⟩).length 8192
    rw [hb.length_content] at hnone
    omega

/-- `Extract` cuts a slice off a buffer with used blocks. -/
theorem WellFormed.extract_isCut (hb : b.WellFormed heap) {n : ℕ} (hn : 0 < n)
    (hpos : 0 < b.usedBlocks) :
    ∃ slice rest, b.extract n = (min n b.usedBlocks, slice, rest) ∧
      IsCut heap b (min n b.usedBlocks) slice rest := by
  obtain ⟨size, size', hextract⟩ := hb.extract_eq (n := n) hpos
  have hmin : 0 < min n b.usedBlocks := Nat.lt_min.mpr ⟨hn, hpos⟩
  have hle : min n b.usedBlocks ≤ b.usedBlocks := min_le_right _ _
  generalize min n b.usedBlocks = m at hextract hmin hle ⊢
  have hlength := hb.length_copies size (min_le_right b.nUsed (8192 * m))
    (min_le_left _ _)
  have hused : 8192 * b.usedBlocks < b.nUsed + 8192 ∧ b.nUsed ≤ 8192 * b.usedBlocks := by
    have hlt := hb.used_lt
    simp only [usedBlocks] at hpos ⊢
    omega
  have hblocks := hb.usedBlocks_le
  refine ⟨_, _, hextract, hb.rest m size', rfl, ?_, ?_, ?_, fun i hi => ?_, ?_, ?_, ?_⟩
  · simp only [List.length_take]
    omega
  · have hlt := hb.used_lt
    simp only [usedBlocks] at hused hpos hle ⊢
    omega
  · rw [hlength, hb.length_content, hb.content_rest]
    congr 1
    omega
  · rw [hlength] at hi
    exact hb.getElem?_copies _ (min_le_right _ _) (min_le_left _ _) hi
  · rw [hlength]
    omega
  · rw [hlength, hb.length_content]
    exact min_le_left _ _
  · rw [hlength, hb.length_content]
    rcases Nat.lt_or_ge (8192 * m) b.nUsed with hlt | hge
    · exact Or.inl ⟨m, min_eq_right hlt.le⟩
    · exact Or.inr (min_eq_left hge)

end SharedBuffer

end Extract

end BC
