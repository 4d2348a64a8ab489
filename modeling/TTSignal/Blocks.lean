import Mathlib.Data.List.Basic
import Mathlib.Tactic.Ring

/-!
# Byte strings kept in equal blocks

A growing buffer is often a list of blocks of one size, addressed by a flat offset
`size * i + off`. The lemmas below translate block accesses at such an offset to
accesses of the flattened string: the rest of a block, and writing into a block.
-/

namespace Blocks

variable {α : Type*} {size : ℕ} {blocks : List (List α)} {i off : ℕ}

/-- The string with the data written over it from the offset on. -/
def splice (l : List α) (off : ℕ) (data : List α) : List α :=
  l.take off ++ (data ++ l.drop (off + data.length))

/-- Writing inside a string keeps its length. -/
theorem length_splice {l data : List α} (hfit : off + data.length ≤ l.length) :
    (splice l off data).length = l.length := by
  simp only [splice, List.length_append, List.length_take, List.length_drop]
  omega

/-- After a write the bytes up to its end are the old ones followed by the data. -/
theorem take_splice {l : List α} (data : List α) (hoff : off ≤ l.length) :
    (splice l off data).take (off + data.length) = l.take off ++ data := by
  have hlen : (l.take off ++ data).length = off + data.length := by simp [hoff]
  rw [splice, ← List.append_assoc, ← hlen, List.take_left]

/-- Writing behind a first part writes into the second part. -/
theorem splice_append_right {first second data : List α} :
    splice (first ++ second) (first.length + off) data = first ++ splice second off data := by
  have hpos : first.length + off + data.length = first.length + (off + data.length) := by omega
  simp only [splice, List.take_length_add_append, hpos, List.drop_length_add_append,
    List.append_assoc]

/-- Writing inside a first part leaves the second part as it is. -/
theorem splice_append_left {first second data : List α}
    (hfit : off + data.length ≤ first.length) :
    splice (first ++ second) off data = splice first off data ++ second := by
  have hoff : off ≤ first.length := by omega
  simp only [splice, List.take_append_of_le_length hoff, List.drop_append_of_le_length hfit,
    List.append_assoc]

/-- Blocks of one size hold that many elements each. -/
theorem length_flatten (hsize : ∀ b ∈ blocks, b.length = size) :
    blocks.flatten.length = size * blocks.length := by
  induction blocks with
  | nil => simp
  | cons b blocks ih =>
    have hb := hsize b (by simp)
    have hrest := ih fun c hc => hsize c (by simp [hc])
    rw [List.flatten_cons, List.length_append, hb, hrest, List.length_cons]
    ring

/-- From a flat offset on, the string is the rest of its block and the later blocks. -/
theorem drop_flatten (hsize : ∀ b ∈ blocks, b.length = size) (hi : i < blocks.length)
    (hoff : off ≤ size) :
    blocks.flatten.drop (size * i + off) =
      (blocks.getD i []).drop off ++ (blocks.drop (i + 1)).flatten := by
  induction blocks generalizing i with
  | nil => simp at hi
  | cons b blocks ih =>
    have hb := hsize b (by simp)
    cases i with
    | zero =>
      rw [List.flatten_cons, Nat.mul_zero, Nat.zero_add,
        List.drop_append_of_le_length (by omega)]
      simp
    | succ i =>
      have hpos : size * (i + 1) + off = b.length + (size * i + off) := by rw [hb]; ring
      rw [List.flatten_cons, hpos, List.drop_length_add_append,
        ih (fun c hc => hsize c (by simp [hc])) (by simpa using hi)]
      simp

/-- Writing into one block writes into the string at the block's flat offset. -/
theorem flatten_modify_splice {data : List α} (hsize : ∀ b ∈ blocks, b.length = size)
    (hi : i < blocks.length) (hfit : off + data.length ≤ size) :
    (blocks.modify i fun b => splice b off data).flatten =
      splice blocks.flatten (size * i + off) data := by
  induction blocks generalizing i with
  | nil => simp at hi
  | cons b blocks ih =>
    have hb := hsize b (by simp)
    cases i with
    | zero =>
      rw [List.modify_zero_cons, List.flatten_cons, List.flatten_cons, Nat.mul_zero,
        Nat.zero_add, splice_append_left (by omega)]
    | succ i =>
      have hpos : size * (i + 1) + off = b.length + (size * i + off) := by rw [hb]; ring
      rw [List.modify_succ_cons, List.flatten_cons, List.flatten_cons, hpos,
        splice_append_right, ih (fun c hc => hsize c (by simp [hc])) (by simpa using hi)]

/-- Writing inside one block keeps every block at its size. -/
theorem length_of_mem_modify_splice {data : List α} (hsize : ∀ b ∈ blocks, b.length = size)
    (hfit : off + data.length ≤ size) :
    ∀ b ∈ blocks.modify i fun b => splice b off data, b.length = size := by
  intro b hb
  obtain ⟨j, hj, rfl⟩ := List.mem_iff_getElem.mp hb
  rw [List.length_modify] at hj
  have hold := hsize _ (List.getElem_mem hj)
  rw [List.getElem_modify]
  split
  · rw [length_splice (by omega), hold]
  · exact hold

end Blocks
