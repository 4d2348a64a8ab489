import Mathlib.Data.List.Basic
import Mathlib.Data.List.Flatten
import Mathlib.Tactic.Common

/-!
# Parsers that read in stages

A staged parser says in each of its states how many elements it needs next, and acts as
soon as it has them: it moves to another state with some outputs, or fails. Feeding it
a stream in chunks, with what is left over carried from chunk to chunk, gives the same
outputs and the same failure as feeding it the whole stream at once.
-/

namespace Staged

/-- A parser with states `σ`, outputs `ω` and failures `ε`. -/
structure Machine (α σ ω ε : Type*) where
  /-- The number of elements the state waits for. -/
  need : σ → ℕ
  /-- What the parser does with them. -/
  act : σ → List α → Except ε (σ × List ω)
  /-- States that need nothing are left in an order. -/
  rank : σ → ℕ
  /-- A state that needs nothing is followed by one of lower rank. -/
  rank_lt : ∀ {s bytes t out}, need s = 0 → act s bytes = .ok (t, out) → rank t < rank s

/-- The outputs of a run, and its failure or the state it ends in with the elements that
are left over. -/
abbrev Outcome (α σ ω ε : Type*) := List ω × Except ε (σ × List α)

namespace Machine

variable {α σ ω ε : Type*} (m : Machine α σ ω ε)

/-- Act as long as there are enough elements. -/
def drain (s : σ) (bytes : List α) : Outcome α σ ω ε :=
  if _hlen : bytes.length < m.need s then ([], .ok (s, bytes))
  else
    match _hact : m.act s (bytes.take (m.need s)) with
    | .error e => ([], .error e)
    | .ok (t, out) =>
      let rest := drain t (bytes.drop (m.need s))
      (out ++ rest.1, rest.2)
termination_by (bytes.length, m.rank s)
decreasing_by
  simp only [List.length_drop, Prod.lex_def]
  rcases Nat.eq_zero_or_pos (m.need s) with hzero | hpos
  · exact Or.inr ⟨by omega, m.rank_lt hzero _hact⟩
  · exact Or.inl (by omega)

/-- Go on with more elements behind those that were left over; a failed run stays as it is. -/
def resume (r : Outcome α σ ω ε) (more : List α) : Outcome α σ ω ε :=
  match r.2 with
  | .error e => (r.1, .error e)
  | .ok (t, left) =>
    let rest := m.drain t (left ++ more)
    (r.1 ++ rest.1, rest.2)

variable {m} {s t : σ} {bytes left : List α} {out : List ω} {e : ε}

/-- Without enough elements nothing happens. -/
theorem drain_of_lt (h : bytes.length < m.need s) : m.drain s bytes = ([], .ok (s, bytes)) := by
  rw [drain, dif_pos h]

/-- A failing action ends the run. -/
theorem drain_of_error (hlen : m.need s ≤ bytes.length)
    (hact : m.act s (bytes.take (m.need s)) = .error e) : m.drain s bytes = ([], .error e) := by
  rw [drain, dif_neg (by omega)]
  split
  · rename_i heq
    rw [hact] at heq
    cases heq
    rfl
  · rename_i heq
    rw [hact] at heq
    cases heq

/-- A successful action is followed by the rest of the run. -/
theorem drain_of_ok (hlen : m.need s ≤ bytes.length)
    (hact : m.act s (bytes.take (m.need s)) = .ok (t, out)) :
    m.drain s bytes =
      (out ++ (m.drain t (bytes.drop (m.need s))).1, (m.drain t (bytes.drop (m.need s))).2) := by
  rw [drain, dif_neg (by omega)]
  split
  · rename_i heq
    rw [hact] at heq
    cases heq
  · rename_i heq
    rw [hact] at heq
    cases heq
    rfl

/-- An action without outputs is followed by the run on the bytes behind it. -/
theorem drain_of_silent {taken rest : List α} (hlen : taken.length = m.need s)
    (hact : m.act s taken = .ok (t, [])) : m.drain s (taken ++ rest) = m.drain t rest := by
  have htake : (taken ++ rest).take (m.need s) = taken := by rw [← hlen, List.take_left]
  have hdrop : (taken ++ rest).drop (m.need s) = rest := by rw [← hlen, List.drop_left]
  rw [drain_of_ok (by rw [List.length_append]; omega) (by rw [htake]; exact hact), hdrop]
  rfl

/-- Outputs that were there before are kept in front. -/
theorem resume_cons_outputs (r : Outcome α σ ω ε) (more : List α) :
    m.resume (out ++ r.1, r.2) more = (out ++ (m.resume r more).1, (m.resume r more).2) := by
  unfold resume
  cases hr : r.2 with
  | error e => rfl
  | ok left => simp

/-- Draining a concatenation goes on from what the first part left over. -/
theorem drain_append (s : σ) (bytes more : List α) :
    m.drain s (bytes ++ more) = m.resume (m.drain s bytes) more := by
  induction s, bytes using drain.induct m with
  | case1 s bytes hlen =>
    rw [drain_of_lt hlen]
    simp [resume]
  | case2 s bytes hlen e hact =>
    have hle : m.need s ≤ bytes.length := by omega
    have hact' : m.act s ((bytes ++ more).take (m.need s)) = .error e := by
      rwa [List.take_append_of_le_length hle]
    rw [drain_of_error hle hact, drain_of_error (by rw [List.length_append]; omega) hact']
    rfl
  | case3 s bytes hlen t out hact ih =>
    have hle : m.need s ≤ bytes.length := by omega
    have hact' : m.act s ((bytes ++ more).take (m.need s)) = .ok (t, out) := by
      rwa [List.take_append_of_le_length hle]
    rw [drain_of_ok hle hact, drain_of_ok (by rw [List.length_append]; omega) hact',
      List.drop_append_of_le_length hle, ih, resume_cons_outputs]

/-- Chunk after chunk is the same as all at once. -/
theorem foldl_resume (s : σ) (bytes : List α) (chunks : List (List α)) :
    chunks.foldl m.resume (m.drain s bytes) = m.drain s (bytes ++ chunks.flatten) := by
  induction chunks generalizing bytes with
  | nil => simp
  | cons chunk chunks ih =>
    rw [List.foldl_cons, ← drain_append, ih, List.flatten_cons, List.append_assoc]

/-- No more is left over than there was. -/
theorem length_left_le (h : (m.drain s bytes).2 = .ok (t, left)) : left.length ≤ bytes.length := by
  induction s, bytes using drain.induct m with
  | case1 s bytes hlen =>
    rw [drain_of_lt hlen] at h
    cases h
    exact Nat.le_refl _
  | case2 s bytes hlen e hact =>
    rw [drain_of_error (by omega) hact] at h
    cases h
  | case3 s bytes hlen t' out hact ih =>
    rw [drain_of_ok (by omega) hact] at h
    exact Nat.le_trans (ih h) (by rw [List.length_drop]; omega)

/-- What is left over after a run is less than its last state needs. -/
theorem length_lt_need (h : (m.drain s bytes).2 = .ok (t, left)) : left.length < m.need t := by
  induction s, bytes using drain.induct m with
  | case1 s bytes hlen =>
    rw [drain_of_lt hlen] at h
    cases h
    exact hlen
  | case2 s bytes hlen e hact =>
    rw [drain_of_error (by omega) hact] at h
    cases h
  | case3 s bytes hlen t' out hact ih =>
    rw [drain_of_ok (by omega) hact] at h
    exact ih h

end Machine

end Staged
