import TTSignal.Blocks

/-!
# The block buffer `BC::BCBuffer`

A `BCBuffer` is a list of blocks of `BCBufferData::BLOCK_SIZE = 8192` bytes with three
unsigned 32-bit counters: the allocated size, the number of bytes written and the read
cursor. The counters are natural numbers here and every addition and subtraction of the
source is reduced modulo `2 ^ 32` as the machine reduces it. A freshly allocated block
is taken to be zero; the operations below never let its unwritten bytes be read.

The four facts that relate the counters to the blocks are fields of the structure, so
each operation carries the proof that it keeps them, also when a counter wraps.
-/

namespace BC

open Blocks

/-- `BCBuffer`: the blocks, their total size, the bytes used and the read cursor. -/
structure BCBuffer where
  /-- `m_lstData`. -/
  lstData : List (List UInt8)
  /-- `m_nSize`. -/
  nSize : ℕ
  /-- `m_nUsed`. -/
  nUsed : ℕ
  /-- `m_nCurrent`. -/
  nCurrent : ℕ
  /-- Every block has the block size. -/
  length_block : ∀ b ∈ lstData, b.length = 8192
  /-- The size is the total size of the blocks, as far as 32 bits hold it. -/
  size_eq : nSize = 8192 * lstData.length % 2 ^ 32
  /-- The number of used bytes is a 32-bit value. -/
  used_lt : nUsed < 2 ^ 32
  /-- Used bytes lie inside the blocks. -/
  used_le : nUsed ≤ 8192 * lstData.length

/-- `BCBufferData::BCBufferData`: one block. -/
def newBlock : List UInt8 := List.replicate 8192 0

/-- A new block has the block size. -/
theorem length_newBlock : newBlock.length = 8192 := List.length_replicate

namespace BCBuffer

/-- The default constructor: no block, nothing used. -/
def empty : BCBuffer where
  lstData := []
  nSize := 0
  nUsed := 0
  nCurrent := 0
  length_block := by simp
  size_eq := rfl
  used_lt := by norm_num
  used_le := by simp

/-- The bytes written so far. -/
def content (b : BCBuffer) : List UInt8 := b.lstData.flatten.take b.nUsed

/-- The written bytes the read cursor has not passed. -/
def remaining (b : BCBuffer) : List UInt8 := b.content.drop b.nCurrent

/-- `BCBuffer::RemainingLength`. -/
def remainingLength (b : BCBuffer) : ℕ := (b.nUsed + 2 ^ 32 - b.nCurrent) % 2 ^ 32

/-- Allocate one more block: `m_lstData.push_back` and `m_nSize += buffer->m_nSize`. -/
def pushBlock (b : BCBuffer) : BCBuffer where
  lstData := b.lstData ++ [newBlock]
  nSize := (b.nSize + 8192) % 2 ^ 32
  nUsed := b.nUsed
  nCurrent := b.nCurrent
  length_block := by
    intro block hblock
    rcases List.mem_append.mp hblock with h | h
    · exact b.length_block block h
    · rw [List.mem_singleton.mp h, length_newBlock]
  size_eq := by
    have h := b.size_eq
    simp only [List.length_append, List.length_singleton]
    omega
  used_lt := b.used_lt
  used_le := by
    have h := b.used_le
    simp only [List.length_append, List.length_singleton]
    omega

/-- `Write` allocates a block exactly when the used bytes fill the size. -/
def makeRoom (b : BCBuffer) : BCBuffer := if b.nUsed = b.nSize then b.pushBlock else b

/-- After making room the next free byte lies inside an allocated block. -/
theorem used_lt_makeRoom (b : BCBuffer) :
    b.makeRoom.nUsed < 8192 * b.makeRoom.lstData.length := by
  have hused := b.used_le
  have hlt := b.used_lt
  have hsize := b.size_eq
  unfold makeRoom
  split
  · simp only [pushBlock, List.length_append, List.length_singleton]
    omega
  · omega

/-- Store data at the next free byte of its block and count it as used. The caller
offers no more than what is left of the block. -/
def store (b : BCBuffer) (data : List UInt8) (hfit : b.nUsed % 8192 + data.length ≤ 8192)
    (hroom : b.nUsed < 8192 * b.lstData.length) : BCBuffer where
  lstData := b.lstData.modify (b.nUsed / 8192) fun block => splice block (b.nUsed % 8192) data
  nSize := b.nSize
  nUsed := (b.nUsed + data.length) % 2 ^ 32
  nCurrent := b.nCurrent
  length_block := length_of_mem_modify_splice b.length_block hfit
  size_eq := by rw [List.length_modify]; exact b.size_eq
  used_lt := Nat.mod_lt _ (by norm_num)
  used_le := by
    rw [List.length_modify]
    omega

/-- The part of the data one turn of the `Write` loop stores. -/
def writePart (b : BCBuffer) (data : List UInt8) : List UInt8 :=
  data.take (8192 - b.makeRoom.nUsed % 8192)

/-- One turn of the `Write` loop. -/
def writeStep (b : BCBuffer) (data : List UInt8) : BCBuffer :=
  b.makeRoom.store (b.writePart data)
    (by
      have hlen := List.length_take_le (8192 - b.makeRoom.nUsed % 8192) data
      have hmod := Nat.mod_lt b.makeRoom.nUsed (show 0 < 8192 by norm_num)
      simp only [writePart]
      omega)
    b.used_lt_makeRoom

/-- The `Write` loop; the fuel bounds the number of turns. -/
def writeLoop : ℕ → BCBuffer → List UInt8 → BCBuffer
  | 0, b, _ => b
  | fuel + 1, b, data =>
    if data = [] then b
    else writeLoop fuel (b.writeStep data) (data.drop (b.writePart data).length)

/-- `BCBuffer::Write`; every turn stores at least one byte. -/
def write (b : BCBuffer) (data : List UInt8) : BCBuffer := writeLoop data.length b data

/-- The loop of `BCBuffer::WriteTo(BCBuffer &) const` over the remaining blocks. -/
def writeToLoop : List (List UInt8) → ℕ → BCBuffer → BCBuffer
  | [], _, dest => dest
  | block :: blocks, nDataLen, dest =>
    if nDataLen = 0 then dest
    else
      writeToLoop blocks (nDataLen - min nDataLen 8192)
        (dest.write (block.take (min nDataLen 8192)))

/-- `BCBuffer::WriteTo(BCBuffer &) const`: all used bytes, wherever the cursor is. -/
def writeTo (b dest : BCBuffer) : BCBuffer := writeToLoop b.lstData b.nUsed dest

/-- Move the read cursor forward. -/
def advance (b : BCBuffer) (n : ℕ) : BCBuffer := { b with nCurrent := (b.nCurrent + n) % 2 ^ 32 }

/-- `BCBuffer::PeekBlock`: bytes from the cursor to the end of its block. -/
def peekBlock (b : BCBuffer) (nSizeToRead : ℕ) : List UInt8 :=
  ((b.lstData.getD (b.nCurrent / 8192) []).drop (b.nCurrent % 8192)).take
    (min nSizeToRead (min (8192 - b.nCurrent % 8192) b.remainingLength))

/-- `BCBuffer::ReadBlock`: `PeekBlock` that also passes the bytes. -/
def readBlock (b : BCBuffer) (nSizeToRead : ℕ) : List UInt8 × BCBuffer :=
  (b.peekBlock nSizeToRead,
    b.advance (min nSizeToRead (min (8192 - b.nCurrent % 8192) b.remainingLength)))

/-- The loop of `BCBuffer::Read`; each turn reads what the current block still holds. -/
def readLoop : ℕ → BCBuffer → ℕ → List UInt8 × BCBuffer
  | 0, b, _ => ([], b)
  | fuel + 1, b, nDataLen =>
    if b.nCurrent < b.nUsed ∧ 0 < nDataLen then
      let nReadLen := min nDataLen (8192 - b.nCurrent % 8192)
      let part := ((b.lstData.getD (b.nCurrent / 8192) []).drop (b.nCurrent % 8192)).take nReadLen
      let rest := readLoop fuel (b.advance nReadLen) (nDataLen - nReadLen)
      (part ++ rest.1, rest.2)
    else ([], b)

/-- `BCBuffer::Read`: the bytes copied out and the buffer with its cursor moved. -/
def read (b : BCBuffer) (nSize : ℕ) : List UInt8 × BCBuffer :=
  readLoop nSize b (min nSize b.remainingLength)

/-- `BCBuffer::Forward`. -/
def forward (b : BCBuffer) (nLen : ℕ) : BCBuffer := b.advance (min nLen b.remainingLength)

/-- `BCBuffer::RefClone`: the same blocks and the same counters. -/
def refClone (b : BCBuffer) : BCBuffer := b

/-- `BCBuffer::Reset(-1)`: nothing used, the blocks are kept. -/
def reset (b : BCBuffer) : BCBuffer where
  lstData := b.lstData
  nSize := b.nSize
  nUsed := 0
  nCurrent := 0
  length_block := b.length_block
  size_eq := b.size_eq
  used_lt := by norm_num
  used_le := by simp

/-- The loop of `BCBuffer::RemoveConsumed`, which copies block after block. -/
def copyLoop : ℕ → BCBuffer → BCBuffer → BCBuffer
  | 0, _, dest => dest
  | fuel + 1, b, dest =>
    if (b.readBlock 8192).1 = [] then dest
    else copyLoop fuel (b.readBlock 8192).2 (dest.write (b.readBlock 8192).1)

/-- `BCBuffer::RemoveConsumed`: what remains is copied to new blocks; every turn of the
loop copies at least one byte. -/
def removeConsumed (b : BCBuffer) : BCBuffer :=
  if 0 < b.nCurrent then copyLoop b.remainingLength b empty else b

end BCBuffer

end BC
