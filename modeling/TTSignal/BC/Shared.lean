import Mathlib.Data.List.Nodup
import Mathlib.Logic.Function.Basic
import TTSignal.BC.Content

/-!
# Buffers that share their blocks

A `BCBuffer` holds its blocks through `std::shared_ptr`: `RefClone` copies the pointers, so
a clone and its original read and write the same blocks. Here the blocks stand in a heap
and a buffer holds their addresses. An operation on one buffer does to it what it does to
the buffer of blocks that it shows, and leaves a buffer that shares no block with it alone.
-/

namespace BC

open Blocks

/-- The allocated blocks by their addresses, and the next free address. -/
structure Heap where
  /-- The content of a block. -/
  block : ℕ → List UInt8
  /-- No block stands here or behind. -/
  next : ℕ

namespace Heap

variable (heap : Heap)

/-- `new BCBufferData`. -/
def alloc : Heap where
  block := Function.update heap.block heap.next newBlock
  next := heap.next + 1

/-- Write into a block. -/
def write (address off : ℕ) (data : List UInt8) : Heap where
  block := Function.update heap.block address (splice (heap.block address) off data)
  next := heap.next

end Heap

/-- `BCBuffer` with the addresses of its blocks. -/
structure SharedBuffer where
  /-- `m_lstData`. -/
  lstData : List ℕ
  /-- `m_nSize`. -/
  nSize : ℕ
  /-- `m_nUsed`. -/
  nUsed : ℕ
  /-- `m_nCurrent`. -/
  nCurrent : ℕ

namespace SharedBuffer

variable (heap : Heap) (b : SharedBuffer)

/-- The default constructor. -/
def empty : SharedBuffer := ⟨[], 0, 0, 0⟩

/-- `BCBuffer::RefClone`: the pointers and the counters. -/
def refClone : SharedBuffer := b

/-- `BCBuffer::RemainingLength`. -/
def remainingLength : ℕ := (b.nUsed + 2 ^ 32 - b.nCurrent) % 2 ^ 32

/-- The address of the block at a flat offset. -/
def address (offset : ℕ) : ℕ := b.lstData.getD (offset / 8192) 0

/-- `Write` allocates a block exactly when the used bytes fill the size. -/
def makeRoom : Heap × SharedBuffer :=
  if b.nUsed = b.nSize then
    (heap.alloc,
      { b with
        lstData := b.lstData ++ [heap.next]
        nSize := (b.nSize + 8192) % 2 ^ 32 })
  else (heap, b)

/-- The part of the data one turn of the `Write` loop stores. -/
def writePart (data : List UInt8) : List UInt8 := data.take (8192 - b.nUsed % 8192)

/-- Store data at the next free byte of its block and count it as used. -/
def store (data : List UInt8) : Heap × SharedBuffer :=
  (heap.write (b.address b.nUsed) (b.nUsed % 8192) data,
    { b with nUsed := (b.nUsed + data.length) % 2 ^ 32 })

/-- One turn of the `Write` loop. -/
def writeStep (data : List UInt8) : Heap × SharedBuffer :=
  (b.makeRoom heap).2.store (b.makeRoom heap).1 (b.writePart data)

/-- The `Write` loop; the fuel bounds the number of turns. -/
def writeLoop : ℕ → Heap → SharedBuffer → List UInt8 → Heap × SharedBuffer
  | 0, heap, b, _ => (heap, b)
  | fuel + 1, heap, b, data =>
    if data = [] then (heap, b)
    else
      writeLoop fuel (b.writeStep heap data).1 (b.writeStep heap data).2
        (data.drop (b.writePart data).length)

/-- `BCBuffer::Write`; every turn stores at least one byte. -/
def write (data : List UInt8) : Heap × SharedBuffer := writeLoop data.length heap b data

/-- The number of bytes `BCBuffer::ReadBlock` passes. -/
def readSize (nSizeToRead : ℕ) : ℕ :=
  min nSizeToRead (min (8192 - b.nCurrent % 8192) b.remainingLength)

/-- The bytes `BCBuffer::ReadBlock` points to. -/
def readBlock (nSizeToRead : ℕ) : List UInt8 :=
  ((b.lstData.map heap.block).getD (b.nCurrent / 8192) []).drop (b.nCurrent % 8192)
    |>.take (b.readSize nSizeToRead)

/-- Move the read cursor forward. -/
def advance (n : ℕ) : SharedBuffer := { b with nCurrent := (b.nCurrent + n) % 2 ^ 32 }

/-- Write through the pointer that `ReadBlock` returned. -/
def overwrite (data : List UInt8) : Heap :=
  heap.write (b.address b.nCurrent) (b.nCurrent % 8192) data

/-- `BCBuffer::Rewind`. -/
def rewind (offset : ℕ) : SharedBuffer := { b with nCurrent := min offset b.nUsed }

/-- The loop of `BCOStream::WriteFrom(BCBuffer &)` into a `BCBuffer`. -/
def writeFromLoop : ℕ → Heap → SharedBuffer → SharedBuffer → ℕ →
    Heap × SharedBuffer × SharedBuffer
  | 0, heap, b, src, _ => (heap, b, src)
  | fuel + 1, heap, b, src, nDataLen =>
    let data := src.readBlock heap nDataLen
    if data = [] then (heap, b, src)
    else
      writeFromLoop fuel (b.write heap data).1 (b.write heap data).2
        (src.advance (src.readSize nDataLen)) (nDataLen - data.length)

/-- `BCOStream::WriteFrom(BCBuffer &)`; every turn writes at least one byte. -/
def writeFrom (src : SharedBuffer) (len : ℕ) : Heap × SharedBuffer × SharedBuffer :=
  writeFromLoop (len + 1) heap b src len

end SharedBuffer

/-- The shared buffer shows this buffer of blocks. -/
structure Shows (heap : Heap) (b : SharedBuffer) (v : BCBuffer) : Prop where
  /-- The blocks at its addresses. -/
  blocks_eq : b.lstData.map heap.block = v.lstData
  /-- The same size. -/
  size_eq : b.nSize = v.nSize
  /-- The same number of used bytes. -/
  used_eq : b.nUsed = v.nUsed
  /-- The same cursor. -/
  current_eq : b.nCurrent = v.nCurrent
  /-- It holds no block twice. -/
  nodup : b.lstData.Nodup
  /-- Its blocks are allocated. -/
  lt_next : ∀ a ∈ b.lstData, a < heap.next

/-- Two shared buffers show these buffers and share no block. -/
structure Apart (heap : Heap) (b : SharedBuffer) (v : BCBuffer) (c : SharedBuffer)
    (w : BCBuffer) : Prop where
  /-- The first one. -/
  left : Shows heap b v
  /-- The second one. -/
  right : Shows heap c w
  /-- They share no block. -/
  disjoint : ∀ a ∈ b.lstData, a ∉ c.lstData

section Shared

variable {heap : Heap} {b c : SharedBuffer} {v w : BCBuffer} {data : List UInt8}

/-- Writing into a block of a list of different blocks. -/
theorem map_block_write {l : List ℕ} {i off : ℕ} (hnodup : l.Nodup) (hi : i < l.length) :
    l.map (heap.write (l.getD i 0) off data).block =
      (l.map heap.block).modify i fun block => splice block off data := by
  rw [List.getD_eq_getElem _ _ hi]
  apply List.ext_getElem
  · simp
  · intro j h h'
    have hj : j < l.length := by simpa using h
    rw [List.getElem_modify, List.getElem_map]
    simp only [Heap.write, Function.update_apply, List.getElem_map]
    by_cases heq : i = j
    · subst heq
      simp
    · have hne : l[j] ≠ l[i] := fun h => heq ((hnodup.getElem_inj_iff).mp h.symm)
      simp [heq, hne]

/-- Writing into another block. -/
theorem map_block_write_of_notMem {l : List ℕ} {a off : ℕ} (ha : a ∉ l) :
    l.map (heap.write a off data).block = l.map heap.block := by
  apply List.map_congr_left
  intro x hx
  have hne : x ≠ a := fun h => ha (h ▸ hx)
  simp [Heap.write, hne]

/-- A new block does not stand among the allocated ones. -/
theorem map_block_alloc {l : List ℕ} (hlt : ∀ a ∈ l, a < heap.next) :
    l.map heap.alloc.block = l.map heap.block := by
  apply List.map_congr_left
  intro x hx
  have hne : x ≠ heap.next := Nat.ne_of_lt (hlt x hx)
  simp [Heap.alloc, hne]

/-- The remaining length is that of the buffer shown. -/
theorem Shows.remainingLength_eq (h : Shows heap b v) :
    b.remainingLength = v.remainingLength := by
  rw [SharedBuffer.remainingLength, BCBuffer.remainingLength, h.used_eq, h.current_eq]

/-- All buffers shown have the same bytes behind the cursor. -/
theorem Shows.remaining_unique (h : Shows heap b v) {w : BCBuffer} (h' : Shows heap b w) :
    v.remaining = w.remaining := by
  rw [BCBuffer.remaining, BCBuffer.remaining, BCBuffer.content, BCBuffer.content, ← h.blocks_eq,
    ← h'.blocks_eq, ← h.used_eq, ← h'.used_eq, ← h.current_eq, ← h'.current_eq]

/-- `ReadBlock` points to what it returns of the buffer shown. -/
theorem Shows.readBlock_eq (h : Shows heap b v) (n : ℕ) :
    b.readBlock heap n = v.peekBlock n := by
  rw [SharedBuffer.readBlock, BCBuffer.peekBlock, SharedBuffer.readSize, h.blocks_eq,
    h.current_eq, h.remainingLength_eq]

/-- Moving the cursor of both. -/
theorem Shows.advance (h : Shows heap b v) (n : ℕ) : Shows heap (b.advance n) (v.advance n) := by
  refine ⟨h.blocks_eq, h.size_eq, h.used_eq, ?_, h.nodup, h.lt_next⟩
  change (b.nCurrent + n) % 2 ^ 32 = (v.nCurrent + n) % 2 ^ 32
  rw [h.current_eq]

/-- Making room in the first buffer. -/
theorem Apart.makeRoom (h : Apart heap b v c w) :
    Apart (b.makeRoom heap).1 (b.makeRoom heap).2 v.makeRoom c w := by
  obtain ⟨hb, hc, hdisjoint⟩ := h
  unfold SharedBuffer.makeRoom BCBuffer.makeRoom
  by_cases hfull : b.nUsed = b.nSize
  · have hfull' : v.nUsed = v.nSize := by rw [← hb.used_eq, hfull, hb.size_eq]
    rw [if_pos hfull, if_pos hfull']
    have hfresh : ∀ l : List ℕ, (∀ a ∈ l, a < heap.next) → heap.next ∉ l :=
      fun l hlt hmem => Nat.lt_irrefl _ (hlt _ hmem)
    refine ⟨⟨?_, ?_, hb.used_eq, hb.current_eq, ?_, ?_⟩, ⟨?_, hc.size_eq, hc.used_eq,
      hc.current_eq, hc.nodup, ?_⟩, ?_⟩
    · rw [List.map_append, map_block_alloc hb.lt_next, hb.blocks_eq]
      simp [Heap.alloc, BCBuffer.pushBlock]
    · change (b.nSize + 8192) % 2 ^ 32 = (v.nSize + 8192) % 2 ^ 32
      rw [hb.size_eq]
    · exact List.nodup_append.mpr ⟨hb.nodup, by simp, by
        intro x hx y hy
        rw [List.mem_singleton.mp hy]
        exact Nat.ne_of_lt (hb.lt_next x hx)⟩
    · intro a ha
      rcases List.mem_append.mp ha with ha | ha
      · exact Nat.lt_succ_of_lt (hb.lt_next a ha)
      · rw [List.mem_singleton.mp ha]
        exact Nat.lt_succ_self _
    · rw [map_block_alloc hc.lt_next, hc.blocks_eq]
    · exact fun a ha => Nat.lt_succ_of_lt (hc.lt_next a ha)
    · intro a ha
      rcases List.mem_append.mp ha with ha | ha
      · exact hdisjoint a ha
      · rw [List.mem_singleton.mp ha]
        exact hfresh _ hc.lt_next
  · have hfull' : ¬v.nUsed = v.nSize := by rwa [← hb.used_eq, ← hb.size_eq]
    rw [if_neg hfull, if_neg hfull']
    exact ⟨hb, hc, hdisjoint⟩

/-- Writing into a block of the first buffer. -/
theorem Apart.writeBlock (h : Apart heap b v c w) {i : ℕ} (hi : i < b.lstData.length) (off : ℕ)
    (data : List UInt8) :
    b.lstData.map (heap.write (b.lstData.getD i 0) off data).block =
        v.lstData.modify i (fun block => splice block off data) ∧
      c.lstData.map (heap.write (b.lstData.getD i 0) off data).block = w.lstData := by
  have hmem : b.lstData.getD i 0 ∈ b.lstData := by
    rw [List.getD_eq_getElem _ _ hi]
    exact List.getElem_mem hi
  constructor
  · rw [map_block_write h.left.nodup hi, h.left.blocks_eq]
  · rw [map_block_write_of_notMem (h.disjoint _ hmem), h.right.blocks_eq]

/-- One turn of the write loop on the first buffer. -/
theorem Apart.writeStep (h : Apart heap b v c w) :
    Apart (b.writeStep heap data).1 (b.writeStep heap data).2 (v.writeStep data) c w := by
  have hroom := h.makeRoom
  have hused := hroom.left.used_eq
  have hpart : b.writePart data = v.writePart data := by
    rw [SharedBuffer.writePart, BCBuffer.writePart, BCBuffer.nUsed_makeRoom, h.left.used_eq]
  have hindex : (b.makeRoom heap).2.nUsed / 8192 < (b.makeRoom heap).2.lstData.length := by
    have hlt := v.used_lt_makeRoom
    have hlength := congrArg List.length hroom.left.blocks_eq
    rw [List.length_map] at hlength
    rw [hused, hlength]
    omega
  obtain ⟨hb, hc⟩ := hroom.writeBlock hindex (v.makeRoom.nUsed % 8192) (v.writePart data)
  unfold SharedBuffer.writeStep SharedBuffer.store BCBuffer.writeStep BCBuffer.store
  rw [hpart]
  simp only [SharedBuffer.address]
  rw [hused] at hb hc ⊢
  exact ⟨⟨hb, hroom.left.size_eq, rfl, hroom.left.current_eq, hroom.left.nodup,
    hroom.left.lt_next⟩, ⟨hc, hroom.right.size_eq, hroom.right.used_eq, hroom.right.current_eq,
    hroom.right.nodup, hroom.right.lt_next⟩, hroom.disjoint⟩

/-- The write loop on the first buffer. -/
theorem Apart.writeLoop {fuel : ℕ} (h : Apart heap b v c w) :
    Apart (SharedBuffer.writeLoop fuel heap b data).1 (SharedBuffer.writeLoop fuel heap b data).2
      (BCBuffer.writeLoop fuel v data) c w := by
  induction fuel generalizing heap b v data with
  | zero => exact h
  | succ fuel ih =>
    have hpart : b.writePart data = v.writePart data := by
      rw [SharedBuffer.writePart, BCBuffer.writePart, BCBuffer.nUsed_makeRoom, h.left.used_eq]
    rw [SharedBuffer.writeLoop, BCBuffer.writeLoop, hpart]
    split
    · exact h
    · exact ih h.writeStep

/-- `Write` on the first buffer does what it does to the buffer shown, and the second
buffer shows what it showed. -/
theorem Apart.write (h : Apart heap b v c w) (data : List UInt8) :
    Apart (b.write heap data).1 (b.write heap data).2 (v.write data) c w :=
  h.writeLoop

/-- Both show what they showed when the cursor of the second one is put back. -/
theorem Apart.putBack {n : ℕ} (h : Apart heap b v (c.advance n) (w.advance n))
    (hcursor : c.nCurrent = w.nCurrent) : Apart heap b v c w :=
  ⟨h.left, ⟨h.right.blocks_eq, h.right.size_eq, h.right.used_eq, hcursor, h.right.nodup,
    h.right.lt_next⟩, h.disjoint⟩

/-- The loop of `WriteFrom` with enough fuel: the counters add up modulo their range, and
below it the next remaining bytes are appended. The second buffer shows what it showed. -/
theorem Apart.writeFromLoop {fuel n : ℕ} (h : Apart heap b v c w) (hcur : w.nCurrent ≤ w.nUsed)
    (hn : n ≤ w.remaining.length) (hfuel : n < fuel) :
    ∃ v', Apart (SharedBuffer.writeFromLoop fuel heap b c n).1
        (SharedBuffer.writeFromLoop fuel heap b c n).2.1 v' c w ∧
      v'.nCurrent = v.nCurrent ∧ v'.nUsed = (v.nUsed + n) % 2 ^ 32 ∧
        (v.nUsed + n < 2 ^ 32 → v'.content = v.content ++ w.remaining.take n) := by
  induction fuel generalizing heap b v c w n with
  | zero => omega
  | succ fuel ih =>
    have hdata := h.right.readBlock_eq n
    have hsize : c.readSize n = (w.peekBlock n).length := by
      have hread := BCBuffer.readBlock_eq (n := n) hcur
      have hused := w.used_lt
      have hremaining := BCBuffer.length_remaining hcur
      have hpeek := BCBuffer.peekBlock_eq (n := n) hcur
      rw [hpeek, List.length_take, SharedBuffer.readSize, h.right.remainingLength_eq,
        h.right.current_eq, ← hremaining]
      omega
    obtain ⟨hpart, hrest, hcur'⟩ := BCBuffer.readBlock_spec (n := n) hcur
    have hstop := BCBuffer.readBlock_eq_nil (n := n) hcur
    rw [BCBuffer.readBlock_eq hcur] at hpart hrest hcur' hstop
    simp only at hpart hrest hcur' hstop
    rw [SharedBuffer.writeFromLoop, hdata, hsize]
    by_cases hnil : w.peekBlock n = []
    · have hzero : n = 0 := by
        rcases hstop.mp hnil with hz | hz
        · exact hz
        · rw [hz, List.length_nil] at hn
          omega
      subst hzero
      rw [if_pos hnil]
      have hmod : (v.nUsed + 0) % 2 ^ 32 = v.nUsed := Nat.mod_eq_of_lt v.used_lt
      exact ⟨v, h, rfl, hmod.symm, by simp⟩
    · rw [if_neg hnil]
      have hpos := List.length_pos_iff.mpr hnil
      have hle : (w.peekBlock n).length ≤ n := by
        rw [hpart, List.length_take]
        omega
      set k := (w.peekBlock n).length with hk
      have hwritten := h.write (w.peekBlock n)
      have hmoved : Apart (b.write heap (w.peekBlock n)).1 (b.write heap (w.peekBlock n)).2
          (v.write (w.peekBlock n)) (c.advance k) (w.advance k) :=
        ⟨hwritten.left, hwritten.right.advance k, hwritten.disjoint⟩
      obtain ⟨v', hapart, hcurrent, hused, hcontent⟩ := ih hmoved hcur'
        (by rw [hrest, List.length_drop]; omega) (n := n - k) (by omega)
      have htotal := BCBuffer.nUsed_write_mod v (w.peekBlock n)
      rw [← hk] at htotal
      have hsum : k + (n - k) = n := by omega
      refine ⟨v', hapart.putBack h.right.current_eq, ?_, ?_, ?_⟩
      · rw [hcurrent, BCBuffer.nCurrent_write]
      · rw [hused, htotal, Nat.mod_add_mod, Nat.add_assoc, hsum]
      · intro hlt
        have hfit : v.nUsed + (w.peekBlock n).length < 2 ^ 32 := by omega
        have hbegins : w.peekBlock n <+: w.remaining := by
          rw [hpart]
          exact List.take_prefix _ _
        have hfront : w.peekBlock n = w.remaining.take k := List.prefix_iff_eq_take.mp hbegins
        rw [hcontent (by rw [htotal, Nat.mod_eq_of_lt (by omega)]; omega),
          BCBuffer.content_write hfit, hrest, List.append_assoc, hfront, ← List.take_add, hsum]

/-- Moving the cursor of the blocks. -/
def BCBuffer.rewind (v : BCBuffer) (offset : ℕ) : BCBuffer :=
  { v with nCurrent := min offset v.nUsed }

/-- `Rewind` leaves the content alone. -/
@[simp] theorem BCBuffer.content_rewind (v : BCBuffer) (offset : ℕ) :
    (v.rewind offset).content = v.content := rfl

/-- `Rewind` leaves the cursor inside the used bytes. -/
theorem BCBuffer.nCurrent_rewind_le (v : BCBuffer) (offset : ℕ) :
    (v.rewind offset).nCurrent ≤ (v.rewind offset).nUsed :=
  Nat.min_le_right _ _

/-- `Rewind` on the first buffer. -/
theorem Apart.rewind (h : Apart heap b v c w) (offset : ℕ) :
    Apart heap (b.rewind offset) (v.rewind offset) c w := by
  refine ⟨⟨h.left.blocks_eq, h.left.size_eq, h.left.used_eq, ?_, h.left.nodup, h.left.lt_next⟩,
    h.right, h.disjoint⟩
  change min offset b.nUsed = min offset v.nUsed
  rw [h.left.used_eq]

/-- Bytes at the read cursor are written over in place, inside the block of the cursor. -/
def BCBuffer.overwrite (v : BCBuffer) (data : List UInt8)
    (hfit : v.nCurrent % 8192 + data.length ≤ 8192) : BCBuffer where
  lstData := v.lstData.modify (v.nCurrent / 8192) fun block => splice block (v.nCurrent % 8192) data
  nSize := v.nSize
  nUsed := v.nUsed
  nCurrent := v.nCurrent
  length_block := length_of_mem_modify_splice v.length_block hfit
  size_eq := by rw [List.length_modify]; exact v.size_eq
  used_lt := v.used_lt
  used_le := by rw [List.length_modify]; exact v.used_le

/-- What is written over changes the content there. -/
theorem BCBuffer.content_overwrite (hfit : v.nCurrent % 8192 + data.length ≤ 8192)
    (hused : v.nCurrent + data.length ≤ v.nUsed) (hpos : 0 < data.length) :
    (v.overwrite data hfit).content =
      v.content.take v.nCurrent ++ (data ++ v.content.drop (v.nCurrent + data.length)) := by
  have hle := v.used_le
  have hindex : v.nCurrent / 8192 < v.lstData.length := by omega
  have hoffset : 8192 * (v.nCurrent / 8192) + v.nCurrent % 8192 = v.nCurrent :=
    Nat.div_add_mod _ _
  have hlength := length_flatten v.length_block
  simp only [BCBuffer.content, BCBuffer.overwrite]
  rw [flatten_modify_splice v.length_block hindex hfit, hoffset, splice, List.take_append,
    List.take_append, List.take_take, List.drop_take, List.length_take]
  congr 1
  · rw [List.take_take]
    congr 1
    omega
  · congr 1
    · rw [List.take_of_length_le]
      omega
    · congr 1
      omega

/-- Writing through the pointer that `ReadBlock` returned, on the first buffer. -/
theorem Apart.overwrite (h : Apart heap b v c w) (hfit : v.nCurrent % 8192 + data.length ≤ 8192)
    (hindex : v.nCurrent / 8192 < v.lstData.length) :
    Apart (b.overwrite heap data) b (v.overwrite data hfit) c w := by
  have hlength := congrArg List.length h.left.blocks_eq
  rw [List.length_map] at hlength
  obtain ⟨hb, hc⟩ := h.writeBlock (hindex.trans_eq hlength.symm) (v.nCurrent % 8192) data
  unfold SharedBuffer.overwrite SharedBuffer.address
  rw [h.left.current_eq]
  exact ⟨⟨hb, h.left.size_eq, h.left.used_eq, h.left.current_eq, h.left.nodup, h.left.lt_next⟩,
    ⟨hc, h.right.size_eq, h.right.used_eq, h.right.current_eq, h.right.nodup,
      h.right.lt_next⟩, h.disjoint⟩

end Shared

end BC
