import Mathlib.Order.Lattice
import Mathlib.Order.Nat
import Mathlib.Tactic.Common

/-!
# Times and intervals

A time is a number of seconds that fits an unsigned integer and of nanoseconds below one second.
Times are compared field by field, which is how the numbers of nanoseconds they stand for
compare. A sum is refused when the seconds do not fit; the second that the nanoseconds may carry
is not looked at.
-/

namespace BC

/-- `NS_PER_S`. -/
def nsPerS : ℕ := 1000000000

/-- `INT_MAX`. -/
def intMax : ℕ := 2147483647

/-- `UINT_MAX`. -/
def uintMax : ℕ := 4294967295

/-- `BCTimeS`. -/
structure BCTimeS where
  /-- The whole seconds since the epoch. -/
  seconds : ℕ
  /-- The nanoseconds behind them. -/
  nanoseconds : ℕ
  /-- The seconds are a 32-bit number. -/
  fits : seconds ≤ uintMax
  /-- The nanoseconds are less than a second. -/
  proper : nanoseconds < nsPerS
  deriving DecidableEq

/-- `BCIntervalS`. -/
structure BCIntervalS where
  /-- The whole seconds of the interval. -/
  seconds : ℕ
  /-- The nanoseconds that are left. -/
  nanoseconds : ℕ
  /-- Its seconds are a 32-bit number. -/
  fits : seconds ≤ uintMax
  /-- Its nanoseconds are less than a second. -/
  proper : nanoseconds < nsPerS
  deriving DecidableEq

/-- The nanoseconds of an interval. -/
def BCIntervalS.toNat (i : BCIntervalS) : ℕ := i.seconds * nsPerS + i.nanoseconds

/-- `bc_interval_zero`. -/
def bcIntervalZero : BCIntervalS := ⟨0, 0, by decide, by decide⟩

/-- `bc_interval_set`, for whole seconds. -/
def bcIntervalSet (seconds : ℕ) : BCIntervalS where
  seconds := seconds % (uintMax + 1)
  nanoseconds := 0
  fits := Nat.le_of_lt_succ (Nat.mod_lt _ (by decide))
  proper := by decide

/-- `bc_interval_iszero`. -/
def bcIntervalIszero (i : BCIntervalS) : Bool := i.seconds == 0 && i.nanoseconds == 0

/-- An interval is zero when it lasts no time. -/
theorem bcIntervalIszero_iff {i : BCIntervalS} : bcIntervalIszero i = true ↔ i.toNat = 0 := by
  simp only [bcIntervalIszero, BCIntervalS.toNat, nsPerS, Bool.and_eq_true, beq_iff_eq]
  omega

namespace BCTimeS

/-- The nanoseconds since the epoch. -/
def toNat (t : BCTimeS) : ℕ := t.seconds * nsPerS + t.nanoseconds

/-- A time is given by its nanoseconds since the epoch. -/
theorem toNat_injective : Function.Injective toNat := by
  rintro ⟨s, n, hs, hn⟩ ⟨s', n', hs', hn'⟩ heq
  simp only [toNat, nsPerS] at heq hn hn'
  obtain rfl : s = s' := by omega
  obtain rfl : n = n' := by omega
  rfl

/-- Times are ordered as the nanoseconds they stand for. -/
instance : LinearOrder BCTimeS := LinearOrder.lift' toNat toNat_injective

/-- The order is the one of the nanoseconds. -/
theorem le_iff {a b : BCTimeS} : a ≤ b ↔ a.toNat ≤ b.toNat := Iff.rfl

/-- So is the strict order. -/
theorem lt_iff {a b : BCTimeS} : a < b ↔ a.toNat < b.toNat := Iff.rfl

end BCTimeS

/-- `bc_time_epoch`. -/
def bcTimeEpoch : BCTimeS := ⟨0, 0, by decide, by decide⟩

instance : Inhabited BCTimeS := ⟨bcTimeEpoch⟩

/-- `bc_time_set`, for whole seconds. -/
def bcTimeSet (seconds : ℕ) : BCTimeS where
  seconds := seconds % (uintMax + 1)
  nanoseconds := 0
  fits := Nat.le_of_lt_succ (Nat.mod_lt _ (by decide))
  proper := by decide

/-- `bc_time_isepoch`. -/
def bcTimeIsepoch (t : BCTimeS) : Bool := t.seconds == 0 && t.nanoseconds == 0

/-- A time is the epoch when no time has passed. -/
theorem bcTimeIsepoch_iff {t : BCTimeS} : bcTimeIsepoch t = true ↔ t.toNat = 0 := by
  simp only [bcTimeIsepoch, BCTimeS.toNat, nsPerS, Bool.and_eq_true, beq_iff_eq]
  omega

/-- The epoch is the epoch. -/
@[simp] theorem bcTimeIsepoch_epoch : bcTimeIsepoch bcTimeEpoch = true := rfl

/-- `bc_time_compare`. -/
def bcTimeCompare (t1 t2 : BCTimeS) : ℤ :=
  if t1.seconds < t2.seconds then -1
  else if t1.seconds > t2.seconds then 1
  else if t1.nanoseconds < t2.nanoseconds then -1
  else if t1.nanoseconds > t2.nanoseconds then 1
  else 0

/-- The comparison goes by the nanoseconds the times stand for. -/
theorem bcTimeCompare_spec (a b : BCTimeS) :
    bcTimeCompare a b = -1 ∧ a < b ∨ bcTimeCompare a b = 0 ∧ a = b ∨
      bcTimeCompare a b = 1 ∧ b < a := by
  have ha := a.proper
  have hb := b.proper
  rw [BCTimeS.lt_iff, BCTimeS.lt_iff, ← BCTimeS.toNat_injective.eq_iff]
  simp only [BCTimeS.toNat, nsPerS] at *
  unfold bcTimeCompare
  split
  · exact Or.inl ⟨rfl, by omega⟩
  split
  · exact Or.inr (Or.inr ⟨rfl, by omega⟩)
  split
  · exact Or.inl ⟨rfl, by omega⟩
  split
  · exact Or.inr (Or.inr ⟨rfl, by omega⟩)
  · exact Or.inr (Or.inl ⟨rfl, by omega⟩)

/-- The comparison is negative when the first time is earlier. -/
theorem bcTimeCompare_neg_iff {a b : BCTimeS} : bcTimeCompare a b < 0 ↔ a < b := by
  rcases bcTimeCompare_spec a b with ⟨hcmp, hlt⟩ | ⟨hcmp, heq⟩ | ⟨hcmp, hlt⟩
  · simp [hcmp, hlt]
  · rw [hcmp, heq]
    simp
  · simp [hcmp, hlt.le]

/-- It is not negative when the first time is not earlier. -/
theorem bcTimeCompare_nonneg_iff {a b : BCTimeS} : bcTimeCompare a b ≥ 0 ↔ b ≤ a := by
  rw [← not_lt, ← bcTimeCompare_neg_iff]
  omega

/-- `bc_time_add`, which is refused when the seconds do not fit (`BC_R_RANGE`). -/
def bcTimeAdd (t : BCTimeS) (i : BCIntervalS) : Option BCTimeS :=
  if (t.seconds > intMax ∨ i.seconds > intMax) ∧ t.seconds + i.seconds > uintMax then none
  else if h : t.nanoseconds + i.nanoseconds ≥ nsPerS then
    some
      { seconds := (t.seconds + i.seconds + 1) % (uintMax + 1)
        nanoseconds := t.nanoseconds + i.nanoseconds - nsPerS
        fits := Nat.le_of_lt_succ (Nat.mod_lt _ (by decide))
        proper := by
          have ht := t.proper
          have hi := i.proper
          omega }
  else
    some
      { seconds := (t.seconds + i.seconds) % (uintMax + 1)
        nanoseconds := t.nanoseconds + i.nanoseconds
        fits := Nat.le_of_lt_succ (Nat.mod_lt _ (by decide))
        proper := by omega }

/-- The interval can be added to the time, and one more second. -/
def InRange (t : BCTimeS) (i : BCIntervalS) : Prop := t.seconds + i.seconds < uintMax

instance (t : BCTimeS) (i : BCIntervalS) : Decidable (InRange t i) :=
  inferInstanceAs (Decidable (_ < _))

/-- In range the sum is that of the nanoseconds. -/
theorem bcTimeAdd_of_inRange {t : BCTimeS} {i : BCIntervalS} (h : InRange t i) :
    ∃ r, bcTimeAdd t i = some r ∧ r.toNat = t.toNat + i.toNat := by
  have hadd : ¬ ((t.seconds > intMax ∨ i.seconds > intMax) ∧ t.seconds + i.seconds > uintMax) := by
    unfold InRange at h
    omega
  unfold bcTimeAdd
  rw [if_neg hadd]
  simp only [InRange, uintMax] at h
  split
  · rename_i hcarry
    have hcarry : 1000000000 ≤ t.nanoseconds + i.nanoseconds := hcarry
    refine ⟨_, rfl, ?_⟩
    simp only [BCTimeS.toNat, BCIntervalS.toNat, nsPerS, uintMax]
    omega
  · refine ⟨_, rfl, ?_⟩
    simp only [BCTimeS.toNat, BCIntervalS.toNat, nsPerS, uintMax]
    omega

/-- At the last second the carry is lost, and the sum is before both. -/
example :
    bcTimeAdd ⟨4294967294, 900000000, by decide, by decide⟩ ⟨1, 500000000, by decide, by decide⟩ =
      some ⟨0, 400000000, by decide, by decide⟩ := by
  decide +kernel

end BC
