import Mathlib.Logic.Function.Basic
import Mathlib.Order.Lattice
import Mathlib.Tactic.Common

/-!
# Heap-ordered arrays with an index table

The elements of a binary heap stand in an array at the indices from one to the last one, and
each is at or after the one at half its index. An element that is out of order is moved along
one path, up or down, until it is in order again. A table says at which index each element
stands; while an element is being moved, it is right about all the others.
-/

namespace Heaps

variable {α κ : Type*} [LinearOrder κ] {key key' : α → κ} {last i j hole : ℕ} {slot : ℕ → α}
  {index : α → ℕ} {x elt gone : α} {P : α → Prop}

/-! ## The order -/

/-- Every element but the first is at or after the one at half its index. -/
def Ordered (key : α → κ) (last : ℕ) (slot : ℕ → α) : Prop :=
  ∀ i, 2 ≤ i → i ≤ last → key (slot (i / 2)) ≤ key (slot i)

/-- The first element is at or before all others. -/
theorem Ordered.root_le (h : Ordered key last slot) (hpos : 1 ≤ i) (hle : i ≤ last) :
    key (slot 1) ≤ key (slot i) := by
  induction i using Nat.strongRecOn with
  | ind i ih =>
    by_cases hone : i = 1
    · rw [hone]
    · have hhalf : key (slot 1) ≤ key (slot (i / 2)) := ih (i / 2) (by omega) (by omega) (by omega)
      exact hhalf.trans (h i (by omega) hle)

/-- The order only reads the elements up to the last one. -/
theorem Ordered.congr {slot' : ℕ → α} (h : Ordered key last slot)
    (hsame : ∀ i, 1 ≤ i → i ≤ last → key' (slot' i) = key (slot i)) : Ordered key' last slot' := by
  intro i htwo hle
  rw [hsame i (by omega) hle, hsame (i / 2) (by omega) (by omega)]
  exact h i htwo hle

/-- A shorter heap is a heap. -/
theorem Ordered.mono (h : Ordered key last slot) (hle : j ≤ last) : Ordered key j slot :=
  fun i htwo hi => h i htwo (Nat.le_trans hi hle)

/-- All elements are in order, but the one at the hole may be too early for its place. -/
structure Rising (key : α → κ) (last : ℕ) (slot : ℕ → α) (hole : ℕ) : Prop where
  /-- Elsewhere no element comes before its parent. -/
  others : ∀ i, 2 ≤ i → i ≤ last → i ≠ hole → key (slot (i / 2)) ≤ key (slot i)
  /-- The children of the hole do not come before its parent. -/
  around : 2 ≤ hole → ∀ i, i ≤ last → i / 2 = hole → key (slot (hole / 2)) ≤ key (slot i)

/-- All elements are in order, but the one at the hole may be too late for its place. -/
structure Sinking (key : α → κ) (last : ℕ) (slot : ℕ → α) (hole : ℕ) : Prop where
  /-- Apart from the children of the hole no element comes before its parent. -/
  others : ∀ i, 2 ≤ i → i ≤ last → i / 2 ≠ hole → key (slot (i / 2)) ≤ key (slot i)
  /-- The children do not come before the parent of the hole. -/
  around : 2 ≤ hole → ∀ i, i ≤ last → i / 2 = hole → key (slot (hole / 2)) ≤ key (slot i)

/-- In a heap with a new last element, only that one may be out of place. -/
theorem Ordered.rising_last (h : Ordered key last slot) (elt : α) :
    Rising key (last + 1) (Function.update slot (last + 1) elt) (last + 1) where
  others i htwo hle hne := by
    rw [Function.update_of_ne (by omega), Function.update_of_ne hne]
    exact h i htwo (by omega)
  around _ i hle hhalf := by omega

/-- An element may take the place of one that it is not after. -/
theorem Ordered.rising (h : Ordered key last slot) (hle : hole ≤ last)
    (hsame : ∀ i, 1 ≤ i → i ≤ last → i ≠ hole → key' (slot i) = key (slot i))
    (hkey : key' elt ≤ key (slot hole)) :
    Rising key' last (Function.update slot hole elt) hole where
  others i htwo hi hne := by
    rw [Function.update_of_ne hne, hsame i (by omega) hi hne]
    by_cases hhalf : i / 2 = hole
    · rw [hhalf, Function.update_self]
      have hchild := h i htwo hi
      rw [hhalf] at hchild
      exact hkey.trans hchild
    · rw [Function.update_of_ne hhalf, hsame (i / 2) (by omega) (by omega) hhalf]
      exact h i htwo hi
  around htwo i hi hhalf := by
    rw [Function.update_of_ne (by omega), Function.update_of_ne (by omega),
      hsame i (by omega) hi (by omega), hsame (hole / 2) (by omega) (by omega) (by omega)]
    have hchild := h i (by omega) hi
    rw [hhalf] at hchild
    exact (h hole htwo hle).trans hchild

/-- An element may take the place of one that it is not before. -/
theorem Ordered.sinking (h : Ordered key last slot) (hle : hole ≤ last)
    (hsame : ∀ i, 1 ≤ i → i ≤ last → i ≠ hole → key' (slot i) = key (slot i))
    (hkey : key (slot hole) ≤ key' elt) :
    Sinking key' last (Function.update slot hole elt) hole where
  others i htwo hi hne := by
    rw [Function.update_of_ne hne, hsame (i / 2) (by omega) (by omega) hne]
    by_cases hself : i = hole
    · rw [hself, Function.update_self]
      exact (h hole (by omega) hle).trans hkey
    · rw [Function.update_of_ne hself, hsame i (by omega) hi hself]
      exact h i htwo hi
  around htwo i hi hhalf := by
    rw [Function.update_of_ne (by omega), Function.update_of_ne (by omega),
      hsame i (by omega) hi (by omega), hsame (hole / 2) (by omega) (by omega) (by omega)]
    have hchild := h i (by omega) hi
    rw [hhalf] at hchild
    exact (h hole htwo hle).trans hchild

/-- Where the element is not too early, the array is in order. -/
theorem Rising.ordered (h : Rising key last (Function.update slot hole elt) hole)
    (hstop : 2 ≤ hole → key (slot (hole / 2)) ≤ key elt) :
    Ordered key last (Function.update slot hole elt) := by
  intro i htwo hi
  by_cases hself : i = hole
  · subst hself
    rw [Function.update_of_ne (by omega), Function.update_self]
    exact hstop htwo
  · exact h.others i htwo hi hself

/-- Where the element is not too late, the array is in order. -/
theorem Sinking.ordered (h : Sinking key last (Function.update slot hole elt) hole)
    (hstop : ∀ i, 2 ≤ i → i ≤ last → i / 2 = hole → key elt ≤ key (slot i)) :
    Ordered key last (Function.update slot hole elt) := by
  intro i htwo hi
  by_cases hhalf : i / 2 = hole
  · rw [Function.update_of_ne (by omega : i ≠ hole), hhalf, Function.update_self]
    exact hstop i htwo hi hhalf
  · exact h.others i htwo hi hhalf

/-- An element that is too early changes places with the one above it. -/
theorem Rising.up (h : Rising key last (Function.update slot hole elt) hole) (htwo : 2 ≤ hole)
    (hle : hole ≤ last) (hlt : key elt < key (slot (hole / 2))) :
    Rising key last
      (Function.update (Function.update slot hole (slot (hole / 2))) (hole / 2) elt)
      (hole / 2) where
  others i hi hil hne := by
    rw [Function.update_of_ne hne]
    by_cases hself : i = hole
    · subst hself
      rw [Function.update_self, Function.update_self]
      exact hlt.le
    · rw [Function.update_of_ne hself]
      have hold := h.others i hi hil hself
      rw [Function.update_of_ne hself] at hold
      by_cases hhalf : i / 2 = hole
      · rw [hhalf, Function.update_of_ne (by omega), Function.update_self]
        have haround := h.around htwo i hil hhalf
        rw [Function.update_of_ne (by omega), Function.update_of_ne hself] at haround
        exact haround
      · rw [Function.update_of_ne hhalf] at hold
        by_cases htop : i / 2 = hole / 2
        · rw [htop, Function.update_self]
          rw [htop] at hold
          exact hlt.le.trans hold
        · rw [Function.update_of_ne htop, Function.update_of_ne hhalf]
          exact hold
  around hhigh i hil hhalf := by
    rw [Function.update_of_ne (by omega), Function.update_of_ne (by omega)]
    have htop := h.others (hole / 2) hhigh (by omega) (by omega)
    rw [Function.update_of_ne (by omega), Function.update_of_ne (by omega)] at htop
    rw [Function.update_of_ne (by omega : i ≠ hole / 2)]
    by_cases hself : i = hole
    · rw [hself, Function.update_self]
      exact htop
    · rw [Function.update_of_ne hself]
      have hold := h.others i (by omega) hil hself
      rw [Function.update_of_ne hself, hhalf, Function.update_of_ne (by omega)] at hold
      exact htop.trans hold

/-- An element that is too late changes places with the earliest of those below it. -/
theorem Sinking.down (h : Sinking key last (Function.update slot hole elt) hole)
    (hpos : 1 ≤ hole) (hj : j / 2 = hole) (hle : j ≤ last)
    (hmin : ∀ i, i ≤ last → i / 2 = hole → key (slot j) ≤ key (slot i))
    (hkey : key (slot j) ≤ key elt) :
    Sinking key last (Function.update (Function.update slot hole (slot j)) j elt) j where
  others i htwo hi hne := by
    rw [Function.update_of_ne hne]
    by_cases hhole : i = hole
    · subst hhole
      rw [Function.update_of_ne (by omega), Function.update_of_ne (by omega), Function.update_self]
      have haround := h.around htwo j hle hj
      rw [Function.update_of_ne (by omega), Function.update_of_ne (by omega)] at haround
      exact haround
    · by_cases hhalf : i / 2 = hole
      · rw [hhalf, Function.update_self]
        by_cases hself : i = j
        · rw [hself, Function.update_self]
          exact hkey
        · rw [Function.update_of_ne hself, Function.update_of_ne hhole]
          exact hmin i hi hhalf
      · rw [Function.update_of_ne hhalf, Function.update_of_ne (by rintro rfl; exact hhalf hj),
          Function.update_of_ne hhole]
        have hold := h.others i htwo hi hhalf
        rwa [Function.update_of_ne hhalf, Function.update_of_ne hhole] at hold
  around _ i hi hhalf := by
    rw [hj, Function.update_of_ne (by omega), Function.update_self,
      Function.update_of_ne (by omega), Function.update_of_ne (by omega)]
    have hold := h.others i (by omega) hi (by omega)
    rwa [hhalf, Function.update_of_ne (by omega), Function.update_of_ne (by omega)] at hold

/-! ## The index table -/

/-- The table is right about the elements `P`, and all elements of the array are among them. -/
structure Placed (P : α → Prop) (last : ℕ) (slot : ℕ → α) (index : α → ℕ) : Prop where
  /-- Every slot is known to its element, which is tracked. -/
  slots : ∀ i, 1 ≤ i → i ≤ last → index (slot i) = i ∧ P (slot i)
  /-- A tracked element with an index is in its slot. -/
  known : ∀ x, P x → index x ≠ 0 → index x ≤ last ∧ slot (index x) = x

/-- The table is right about the elements `P` but one, which is to come to the hole. -/
structure Holed (P : α → Prop) (last : ℕ) (slot : ℕ → α) (index : α → ℕ) (hole : ℕ) (elt : α) :
    Prop where
  /-- The hole is no empty place. -/
  pos : 1 ≤ hole
  /-- It is within the heap. -/
  le : hole ≤ last
  /-- The element is tracked. -/
  tracked : P elt
  /-- The other slots are known to their elements, which are others. -/
  slots : ∀ i, 1 ≤ i → i ≤ last → i ≠ hole → index (slot i) = i ∧ P (slot i) ∧ slot i ≠ elt
  /-- The other tracked elements with an index are in their slots, outside the hole. -/
  known : ∀ x, P x → x ≠ elt → index x ≠ 0 →
    index x ≤ last ∧ index x ≠ hole ∧ slot (index x) = x

/-- Different indices hold different elements. -/
theorem Placed.injective (h : Placed P last slot index) (hi : 1 ≤ i) (hil : i ≤ last) (hj : 1 ≤ j)
    (hjl : j ≤ last) (heq : slot i = slot j) : i = j := by
  rw [← (h.slots i hi hil).1, ← (h.slots j hj hjl).1, heq]

/-- An element stands in the array exactly when the table gives an index for it. -/
theorem Placed.mem_iff (h : Placed P last slot index) (hx : P x) :
    (∃ i, 1 ≤ i ∧ i ≤ last ∧ slot i = x) ↔ index x ≠ 0 := by
  constructor
  · rintro ⟨i, hi, hil, rfl⟩
    rw [(h.slots i hi hil).1]
    omega
  · intro hne
    obtain ⟨hle, heq⟩ := h.known x hx hne
    exact ⟨index x, by omega, hle, heq⟩

/-- Only what the table says of the elements `P` counts. -/
theorem Placed.congr {index' : α → ℕ} (h : Placed P last slot index)
    (hsame : ∀ x, P x → index' x = index x) : Placed P last slot index' where
  slots i hi hil := by
    obtain ⟨hindex, hP⟩ := h.slots i hi hil
    exact ⟨(hsame _ hP).trans hindex, hP⟩
  known x hx hindex := by
    rw [hsame x hx] at hindex ⊢
    exact h.known x hx hindex

/-- Only what the table says of the other elements `P` counts. -/
theorem Holed.congr {index' : α → ℕ} (h : Holed P last slot index hole elt)
    (hsame : ∀ x, P x → index' x = index x) : Holed P last slot index' hole elt where
  pos := h.pos
  le := h.le
  tracked := h.tracked
  slots i hi hil hne := by
    obtain ⟨hindex, hP, helt⟩ := h.slots i hi hil hne
    exact ⟨(hsame _ hP).trans hindex, hP, helt⟩
  known x hx hne hindex := by
    rw [hsame x hx] at hindex ⊢
    exact h.known x hx hne hindex

/-- What stands in the hole does not count. -/
theorem Holed.update_hole (h : Holed P last slot index hole elt) :
    Holed P last (Function.update slot hole x) index hole elt where
  pos := h.pos
  le := h.le
  tracked := h.tracked
  slots i hi hil hne := by
    rw [Function.update_of_ne hne]
    exact h.slots i hi hil hne
  known y hy hne hindex := by
    obtain ⟨hle, hhole, heq⟩ := h.known y hy hne hindex
    rw [Function.update_of_ne hhole]
    exact ⟨hle, hhole, heq⟩

/-- An element of the array may be taken out of its place. -/
theorem Placed.holed (h : Placed P last slot index) (hpos : 1 ≤ hole) (hle : hole ≤ last) :
    Holed P last slot index hole (slot hole) where
  pos := hpos
  le := hle
  tracked := (h.slots hole hpos hle).2
  slots i hi hil hne :=
    ⟨(h.slots i hi hil).1, (h.slots i hi hil).2, fun heq => hne (h.injective hi hil hpos hle heq)⟩
  known x hx hne hindex := by
    obtain ⟨hxl, heq⟩ := h.known x hx hindex
    refine ⟨hxl, ?_, heq⟩
    rintro hhole
    rw [hhole] at heq
    exact hne heq.symm

/-- A new element may come to a new last place. -/
theorem Placed.holed_last (h : Placed P last slot index) (hx : P x) (hnew : index x = 0) :
    Holed P (last + 1) slot index (last + 1) x where
  pos := by omega
  le := Nat.le_refl _
  tracked := hx
  slots i hi hil hne := by
    obtain ⟨hindex, hP⟩ := h.slots i hi (by omega)
    refine ⟨hindex, hP, ?_⟩
    rintro rfl
    omega
  known y hy _ hindex := by
    obtain ⟨hle, heq⟩ := h.known y hy hindex
    exact ⟨by omega, by omega, heq⟩

/-- The element comes to the hole. -/
theorem Holed.fill [DecidableEq α] (h : Holed P last slot index hole elt) :
    Placed P last (Function.update slot hole elt) (Function.update index elt hole) where
  slots i hi hil := by
    by_cases hself : i = hole
    · rw [hself, Function.update_self, Function.update_self]
      exact ⟨rfl, h.tracked⟩
    · obtain ⟨hindex, hP, hne⟩ := h.slots i hi hil hself
      rw [Function.update_of_ne hself, Function.update_of_ne hne]
      exact ⟨hindex, hP⟩
  known x hx hindex := by
    by_cases hself : x = elt
    · rw [hself, Function.update_self, Function.update_self]
      exact ⟨h.le, rfl⟩
    · rw [Function.update_of_ne hself] at hindex ⊢
      obtain ⟨hle, hne, heq⟩ := h.known x hx hself hindex
      rw [Function.update_of_ne hne]
      exact ⟨hle, heq⟩

/-- Another element comes to the hole and leaves one at its own place. -/
theorem Holed.move [DecidableEq α] (h : Holed P last slot index hole elt) (hj : 1 ≤ j)
    (hjl : j ≤ last) (hne : j ≠ hole) :
    Holed P last (Function.update slot hole (slot j)) (Function.update index (slot j) hole) j
      elt where
  pos := hj
  le := hjl
  tracked := h.tracked
  slots i hi hil hij := by
    obtain ⟨hjindex, hjP, hjelt⟩ := h.slots j hj hjl hne
    by_cases hself : i = hole
    · rw [hself, Function.update_self, Function.update_self]
      exact ⟨rfl, hjP, hjelt⟩
    · obtain ⟨hindex, hP, helt⟩ := h.slots i hi hil hself
      rw [Function.update_of_ne hself, Function.update_of_ne]
      · exact ⟨hindex, hP, helt⟩
      · intro heq
        rw [heq] at hindex
        omega
  known x hx hxelt hindex := by
    obtain ⟨hjindex, _, _⟩ := h.slots j hj hjl hne
    by_cases hself : x = slot j
    · rw [hself, Function.update_self, Function.update_self]
      exact ⟨h.le, fun heq => hne heq.symm, rfl⟩
    · rw [Function.update_of_ne hself] at hindex ⊢
      obtain ⟨hle, hhole, heq⟩ := h.known x hx hxelt hindex
      rw [Function.update_of_ne hhole]
      refine ⟨hle, ?_, heq⟩
      intro hxj
      rw [hxj] at heq
      exact hself heq.symm

/-- The last element may be dropped: the table is right about all others. -/
theorem Placed.drop (h : Placed P (last + 1) slot index) :
    Placed (fun x => P x ∧ x ≠ slot (last + 1)) last slot index where
  slots i hi hil := by
    obtain ⟨hindex, hP⟩ := h.slots i hi (by omega)
    refine ⟨hindex, hP, fun heq => ?_⟩
    have := h.injective hi (by omega) (by omega) (Nat.le_refl _) heq
    omega
  known x hx hindex := by
    obtain ⟨hle, heq⟩ := h.known x hx.1 hindex
    refine ⟨?_, heq⟩
    by_contra hlast
    have hx2 : slot (index x) ≠ slot (last + 1) := by
      rw [heq]
      exact hx.2
    exact hx2 (congrArg slot (by omega))

/-- The last element may come to the place of one that is dropped. -/
theorem Placed.replace (h : Placed P (last + 1) slot index) (hpos : 1 ≤ hole)
    (hle : hole ≤ last) :
    Holed (fun x => P x ∧ x ≠ slot hole) last slot index hole (slot (last + 1)) where
  pos := hpos
  le := hle
  tracked := by
    refine ⟨(h.slots (last + 1) (by omega) (Nat.le_refl _)).2, fun heq => ?_⟩
    have := h.injective (by omega) (Nat.le_refl _) hpos (by omega) heq
    omega
  slots i hi hil hne := by
    obtain ⟨hindex, hP⟩ := h.slots i hi (by omega)
    refine ⟨hindex, ⟨hP, fun heq => ?_⟩, fun heq => ?_⟩
    · exact hne (h.injective hi (by omega) hpos (by omega) heq)
    · have := h.injective hi (by omega) (by omega) (Nat.le_refl _) heq
      omega
  known x hx hlast hindex := by
    obtain ⟨hxle, heq⟩ := h.known x hx.1 hindex
    refine ⟨?_, fun hhole => ?_, heq⟩
    · by_contra hlt
      have hxlast : index x = last + 1 := by omega
      rw [hxlast] at heq
      exact hlast heq.symm
    · rw [hhole] at heq
      exact hx.2 heq.symm

/-- The table gives no index for what was dropped, so it is right about that as well. -/
theorem Placed.forget (h : Placed (fun x => P x ∧ x ≠ gone) last slot index)
    (hgone : index gone = 0) : Placed P last slot index where
  slots i hi hil := ⟨(h.slots i hi hil).1, (h.slots i hi hil).2.1⟩
  known x hx hindex := by
    refine h.known x ⟨hx, ?_⟩ hindex
    rintro rfl
    exact hindex hgone

end Heaps
