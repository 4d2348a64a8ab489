import Mathlib.Data.List.Basic
import Mathlib.Data.List.Flatten
import Mathlib.Tactic.Common

/-!
# Incremental decoding of framed streams

A frame decoder looks at a byte string and either takes one message off its front or
asks for more bytes. Draining a string takes off every message that is complete in it.
Because a decision taken on a prefix stands when more bytes follow, draining chunk by
chunk with a carried remainder is the same as draining the whole stream at once, and on
an encoded list of messages it yields exactly the messages that are complete.
-/

namespace Framing

variable {α μ : Type*}

/-- A decoder of one frame at the front of a string. -/
structure Decoder (α μ : Type*) where
  /-- The message at the front and the bytes behind it, if the message is complete. -/
  next : List α → Option (μ × List α)
  /-- Every message takes at least one byte. -/
  shorter : ∀ {s m rest}, next s = some (m, rest) → rest.length < s.length
  /-- A complete message stays the same when more bytes follow. -/
  extend : ∀ {s m rest} (t : List α), next s = some (m, rest) →
    next (s ++ t) = some (m, rest ++ t)

namespace Decoder

variable (d : Decoder α μ)

/-- All messages complete in a string, and the bytes behind them. -/
def drain (s : List α) : List μ × List α :=
  match _h : d.next s with
  | none => ([], s)
  | some (m, rest) => (m :: (drain rest).1, (drain rest).2)
termination_by s.length
decreasing_by all_goals exact d.shorter _h

variable {d}

/-- Nothing is taken off a string without a complete message. -/
theorem drain_of_none {s : List α} (h : d.next s = none) : d.drain s = ([], s) := by
  rw [drain]
  split
  · rfl
  · simp_all

/-- A complete message is taken off first. -/
theorem drain_of_some {s rest : List α} {m : μ} (h : d.next s = some (m, rest)) :
    d.drain s = (m :: (d.drain rest).1, (d.drain rest).2) := by
  rw [drain]
  split
  · simp_all
  · simp_all

/-- The bytes behind the complete messages hold no complete message. -/
theorem next_drain (s : List α) : d.next (d.drain s).2 = none := by
  induction hn : s.length using Nat.strongRecOn generalizing s with
  | _ n ih =>
    subst hn
    cases hnext : d.next s with
    | none =>
      rw [drain_of_none hnext]
      exact hnext
    | some found =>
      obtain ⟨m, rest⟩ := found
      rw [drain_of_some hnext]
      exact ih rest.length (d.shorter hnext) rest rfl

/-- If no message is complete, the whole string is left. -/
theorem drain_snd_of_fst_eq_nil {s : List α} (h : (d.drain s).1 = []) : (d.drain s).2 = s := by
  cases hnext : d.next s with
  | none => rw [drain_of_none hnext]
  | some found =>
    rw [drain_of_some hnext] at h
    exact absurd h (by simp)

/-- Draining a concatenation continues from the remainder of its first part. -/
theorem drain_append (s t : List α) :
    d.drain (s ++ t) =
      ((d.drain s).1 ++ (d.drain ((d.drain s).2 ++ t)).1,
        (d.drain ((d.drain s).2 ++ t)).2) := by
  induction hn : s.length using Nat.strongRecOn generalizing s with
  | _ n ih =>
    subst hn
    cases hnext : d.next s with
    | none => simp [drain_of_none hnext]
    | some found =>
      obtain ⟨m, rest⟩ := found
      rw [drain_of_some hnext, drain_of_some (d.extend t hnext),
        ih rest.length (d.shorter hnext) rest rfl]
      simp

/-- The decoder recognises one message's encoding, and only once all of it is there. -/
structure Encodes (d : Decoder α μ) (enc : μ → List α) (m : μ) : Prop where
  /-- The whole encoding yields the message and nothing more is consumed. -/
  next_encoded : ∀ t, d.next (enc m ++ t) = some (m, t)
  /-- A proper part of the encoding is not yet a message. -/
  next_incomplete : ∀ n, n < (enc m).length → d.next ((enc m).take n) = none

end Decoder

/-- The messages whose encodings lie within the first `n` bytes of the encoded list. -/
def completeIn (enc : μ → List α) : List μ → ℕ → List μ
  | [], _ => []
  | m :: ms, n =>
    if (enc m).length ≤ n then m :: completeIn enc ms (n - (enc m).length) else []

/-- The bytes among the first `n` that belong to the first incomplete message. -/
def remainderIn (enc : μ → List α) : List μ → ℕ → List α
  | [], _ => []
  | m :: ms, n =>
    if (enc m).length ≤ n then remainderIn enc ms (n - (enc m).length) else (enc m).take n

/-- Draining a prefix of an encoded list yields exactly the messages complete in it. -/
theorem Decoder.drain_take_encoded {d : Decoder α μ} {enc : μ → List α} {ms : List μ}
    (henc : ∀ m ∈ ms, d.Encodes enc m) (hnil : d.next [] = none) (n : ℕ) :
    d.drain ((ms.flatMap enc).take n) = (completeIn enc ms n, remainderIn enc ms n) := by
  induction ms generalizing n with
  | nil => simpa [completeIn, remainderIn] using drain_of_none hnil
  | cons m ms ih =>
    have hm := henc m (by simp)
    by_cases hfit : (enc m).length ≤ n
    · have htake : ((m :: ms).flatMap enc).take n =
          enc m ++ (ms.flatMap enc).take (n - (enc m).length) := by
        rw [List.flatMap_cons, List.take_append, List.take_of_length_le hfit]
      rw [htake, drain_of_some (hm.next_encoded _), ih fun m' h => henc m' (by simp [h])]
      simp [completeIn, remainderIn, hfit]
    · have htake : ((m :: ms).flatMap enc).take n = (enc m).take n := by
        rw [List.flatMap_cons, List.take_append_of_le_length (by omega)]
      rw [htake, drain_of_none (hm.next_incomplete n (by omega))]
      simp [completeIn, remainderIn, hfit]

/-- All messages are complete in the whole stream. -/
theorem completeIn_of_le (enc : μ → List α) {ms : List μ} {n : ℕ}
    (h : (ms.flatMap enc).length ≤ n) : completeIn enc ms n = ms := by
  induction ms generalizing n with
  | nil => rfl
  | cons m ms ih =>
    rw [List.flatMap_cons, List.length_append] at h
    rw [completeIn, if_pos (by omega), ih (by omega)]

/-- Nothing remains of the whole stream. -/
theorem remainderIn_of_le (enc : μ → List α) {ms : List μ} {n : ℕ}
    (h : (ms.flatMap enc).length ≤ n) : remainderIn enc ms n = [] := by
  induction ms generalizing n with
  | nil => rfl
  | cons m ms ih =>
    rw [List.flatMap_cons, List.length_append] at h
    rw [remainderIn, if_pos (by omega), ih (by omega)]

end Framing
