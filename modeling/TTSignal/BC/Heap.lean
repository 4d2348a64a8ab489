import TTSignal.Heaps
import TTSignal.Runs
import Mathlib.Algebra.Group.Nat.Defs
import Mathlib.Order.Nat

/-!
# The binary heap

`BCHeap` keeps pointers in an array from index one on, in an order that its client decides, and
tells the client of every index an element comes to. The client needs the index to delete an
element or to say that its priority has changed.
-/

namespace BC

/-- The members of `BCHeap`, and what `m_lpfnIndex` has last told the client about each element.
The places above `m_nLast` are never read. -/
structure BCHeap (α : Type*) where
  /-- The number of places that are allocated (`m_nSize`). -/
  nSize : ℕ
  /-- The number of places that are added at a time (`m_nSizeIncrement`). -/
  nSizeIncrement : ℕ
  /-- The index of the last element (`m_nLast`). -/
  nLast : ℕ
  /-- The elements (`m_pArray`). -/
  pArray : ℕ → α
  /-- The index the client knows of an element. -/
  index : α → ℕ

namespace BCHeap

variable {α κ : Type*}

/-- `SIZE_INCREMENT`. -/
def sizeIncrement : ℕ := 1024

/-- `Create`. -/
def create [Inhabited α] (nSizeIncrement : ℕ) : BCHeap α where
  nSize := 0
  nSizeIncrement := if nSizeIncrement = 0 then sizeIncrement else nSizeIncrement
  nLast := 0
  pArray := fun _ => default
  index := fun _ => 0

/-- `_ReSize`, when the pool has memory or not. -/
def reSize (memory : Bool) (h : BCHeap α) : Option (BCHeap α) :=
  if memory then some { h with nSize := h.nSize + h.nSizeIncrement } else none

/-- The places of the memory that `_ReSize` was given last. `Calloc` takes the number of bytes,
eight for each place, as a `uint32_t`. -/
def room (h : BCHeap α) : ℕ := 8 * h.nSize % 2 ^ 32 / 8

variable [DecidableEq α] (less : α → α → Bool)

/-- An element is written to a place and the client is told. -/
def put (h : BCHeap α) (i : ℕ) (x : α) : BCHeap α :=
  { h with pArray := Function.update h.pArray i x, index := Function.update h.index x i }

/-- `_FloatUp`. -/
def floatUp (i : ℕ) (elt : α) (h : BCHeap α) : BCHeap α :=
  if 1 < i ∧ less elt (h.pArray (i / 2)) = true then
    floatUp (i / 2) elt (h.put i (h.pArray (i / 2)))
  else h.put i elt
termination_by i

/-- The smaller of the at most two children of a place. -/
def child (i : ℕ) (h : BCHeap α) : ℕ :=
  if 2 * i < h.nLast ∧ less (h.pArray (2 * i + 1)) (h.pArray (2 * i)) = true then 2 * i + 1
  else 2 * i

omit [DecidableEq α] in
/-- The child is the left one, or the right one where there is one. -/
theorem child_eq (i : ℕ) (h : BCHeap α) :
    child less i h = 2 * i ∨ child less i h = 2 * i + 1 ∧ 2 * i < h.nLast := by
  unfold child
  split
  · rename_i hright
    exact Or.inr ⟨rfl, hright.1⟩
  · exact Or.inl rfl

/-- `_SinkDown`. All callers assert that the place is not zero. -/
def sinkDown (i : ℕ) (elt : α) (h : BCHeap α) : BCHeap α :=
  if _hchild : 0 < i ∧ i ≤ h.nLast / 2 then
    if less elt (h.pArray (child less i h)) = true then h.put i elt
    else sinkDown (child less i h) elt (h.put i (h.pArray (child less i h)))
  else h.put i elt
termination_by h.nLast - i
decreasing_by
  have hnext := child_eq less i h
  simp only [put]
  omega

/-- `Insert`: whether it returns `BC_R_SUCCESS`, and the heap. Without memory the last index
stays raised. -/
def insert (elt : α) (memory : Bool) (h : BCHeap α) : Bool × BCHeap α :=
  let h := { h with nLast := h.nLast + 1 }
  if h.nLast ≥ h.nSize then
    match h.reSize memory with
    | none => (false, h)
    | some h => (true, floatUp less h.nLast elt h)
  else (true, floatUp less h.nLast elt h)

/-- `Delete`. -/
def delete (nIndex : ℕ) (h : BCHeap α) : BCHeap α :=
  if nIndex = h.nLast then { h with nLast := h.nLast - 1 }
  else
    let elt := h.pArray h.nLast
    let sooner := less elt (h.pArray nIndex)
    let h := { h with
      nLast := h.nLast - 1
      pArray := Function.update h.pArray nIndex elt }
    if sooner then floatUp less nIndex elt h else sinkDown less nIndex elt h

/-- `Increased`. -/
def increased (nIndex : ℕ) (h : BCHeap α) : BCHeap α := floatUp less nIndex (h.pArray nIndex) h

/-- `Decreased`. -/
def decreased (nIndex : ℕ) (h : BCHeap α) : BCHeap α := sinkDown less nIndex (h.pArray nIndex) h

omit [DecidableEq α] in
/-- `Element`. -/
def element (nIndex : ℕ) (h : BCHeap α) : Option α :=
  if nIndex ≤ h.nLast then some (h.pArray nIndex) else none

/-- The client sets the index it knows of an element. -/
def setIndex (x : α) (i : ℕ) (h : BCHeap α) : BCHeap α :=
  { h with index := Function.update h.index x i }

variable {less} {h h' : BCHeap α} {i : ℕ} {x elt : α} {P : α → Prop}

section Frames

/-- Putting an element keeps the number of elements. -/
@[simp] theorem put_nLast : (h.put i x).nLast = h.nLast := rfl

/-- It changes the array at the one place. -/
@[simp] theorem put_pArray : (h.put i x).pArray = Function.update h.pArray i x := rfl

/-- The element learns its place. -/
@[simp] theorem put_index : (h.put i x).index = Function.update h.index x i := rfl

/-- Another index keeps the number of elements. -/
@[simp] theorem setIndex_nLast : (h.setIndex x i).nLast = h.nLast := rfl

/-- It keeps the array. -/
@[simp] theorem setIndex_pArray : (h.setIndex x i).pArray = h.pArray := rfl

/-- It is the one index that changes. -/
@[simp] theorem setIndex_index : (h.setIndex x i).index = Function.update h.index x i := rfl

omit [DecidableEq α] in
/-- One more place is used, and there is memory for it. -/
def grow (h : BCHeap α) : BCHeap α :=
  { h with
    nSize := if h.nSize ≤ h.nLast + 1 then h.nSize + h.nSizeIncrement else h.nSize
    nLast := h.nLast + 1 }

/-- `Insert` with the memory that it needs. -/
theorem insert_of_memory {memory : Bool} (hmemory : h.nSize ≤ h.nLast + 1 → memory = true) :
    h.insert less elt memory = (true, floatUp less h.grow.nLast elt h.grow) := by
  unfold insert
  dsimp only
  split
  · rename_i hfull
    have hgrow : h.grow =
        { h with nSize := h.nSize + h.nSizeIncrement, nLast := h.nLast + 1 } := by
      unfold grow
      rw [if_pos hfull]
    rw [hmemory hfull, hgrow]
    rfl
  · rename_i hroom
    have hgrow : h.grow = { h with nLast := h.nLast + 1 } := by
      unfold grow
      rw [if_neg hroom]
    rw [hgrow]

omit [DecidableEq α] in
/-- Growing adds one element. -/
@[simp] theorem grow_nLast : h.grow.nLast = h.nLast + 1 := rfl

omit [DecidableEq α] in
/-- It leaves the array as it is. -/
@[simp] theorem grow_pArray : h.grow.pArray = h.pArray := rfl

omit [DecidableEq α] in
/-- It leaves every index as it is. -/
@[simp] theorem grow_index : h.grow.index = h.index := rfl

omit [DecidableEq α] in
/-- The first element is there where there are elements. -/
theorem element_one_eq_some : h.element 1 = some x ↔ 1 ≤ h.nLast ∧ h.pArray 1 = x := by
  unfold element
  split <;> simp_all

omit [DecidableEq α] in
/-- There is none where there are none. -/
theorem element_one_eq_none : h.element 1 = none ↔ h.nLast = 0 := by
  unfold element
  split
  · simp
    omega
  · simp
    omega

end Frames

section Size

end Size

/-- What moving an element leaves as it was: the number of elements, the memory, which other
elements are in the heap, and what the client knows of the elements that are not in it. -/
structure Moved (P : α → Prop) (elt : α) (h h' : BCHeap α) : Prop where
  /-- The number of elements. -/
  nLast : h'.nLast = h.nLast
  /-- The size. -/
  nSize : h'.nSize = h.nSize
  /-- The increment of the size. -/
  nSizeIncrement : h'.nSizeIncrement = h.nSizeIncrement
  /-- The members, but for the element. -/
  members : ∀ x, x ≠ elt → (h'.index x = 0 ↔ h.index x = 0)
  /-- The indices of the elements that have not moved. -/
  outside : ∀ x, ¬ P x → h'.index x = h.index x

omit [DecidableEq α] in
/-- Two moves of one element are a move. -/
theorem Moved.trans {h'' : BCHeap α} (hfirst : Moved P elt h h') (hsecond : Moved P elt h' h'') :
    Moved P elt h h'' where
  nLast := hsecond.nLast.trans hfirst.nLast
  nSize := hsecond.nSize.trans hfirst.nSize
  nSizeIncrement := hsecond.nSizeIncrement.trans hfirst.nSizeIncrement
  members x hx := (hsecond.members x hx).trans (hfirst.members x hx)
  outside x hx := (hsecond.outside x hx).trans (hfirst.outside x hx)

/-- Putting the element itself to a place. -/
theorem moved_put_self (hx : P elt) : Moved P elt h (h.put i elt) where
  nLast := rfl
  nSize := rfl
  nSizeIncrement := rfl
  members x hne := by rw [put_index, Function.update_of_ne hne]
  outside x hout := by
    rw [put_index, Function.update_of_ne]
    rintro rfl
    exact hout hx

/-- Putting an element of the heap to another place. -/
theorem moved_put {j : ℕ} (hi : 1 ≤ i) (hj : 1 ≤ j) (hindex : h.index (h.pArray j) = j)
    (hx : P (h.pArray j)) : Moved P elt h (h.put i (h.pArray j)) where
  nLast := rfl
  nSize := rfl
  nSizeIncrement := rfl
  members x _ := by
    rw [put_index]
    by_cases hself : x = h.pArray j
    · rw [hself, Function.update_self, hindex]
      omega
    · rw [Function.update_of_ne hself]
  outside x hout := by
    rw [put_index, Function.update_of_ne]
    rintro rfl
    exact hout hx

variable [LinearOrder κ] {key key' : α → κ}

/-- The comparison of the client orders the elements by a key. -/
def Compares (less : α → α → Bool) (key : α → κ) : Prop :=
  ∀ x y, less x y = true ↔ key x < key y

/-- `HEAPCONDITION` holds everywhere, and the client knows where the elements `P` are. -/
structure InOrder (key : α → κ) (P : α → Prop) (h : BCHeap α) : Prop where
  /-- Up to the number of elements the array is ordered. -/
  ordered : Heaps.Ordered key h.nLast h.pArray
  /-- Each of them knows its place. -/
  placed : Heaps.Placed P h.nLast h.pArray h.index

/-- `_FloatUp` brings an element to its place that may be too early for the hole. -/
theorem floatUp_inOrder (hless : Compares less key)
    (hrising : Heaps.Rising key h.nLast (Function.update h.pArray i elt) i)
    (hholed : Heaps.Holed P h.nLast h.pArray h.index i elt) :
    InOrder key P (floatUp less i elt h) ∧ Moved P elt h (floatUp less i elt h) ∧
      (floatUp less i elt h).index elt ≠ 0 := by
  induction i, h using floatUp.induct less elt with
  | case1 i h hup ih =>
    obtain ⟨htwo, hsooner⟩ := hup
    have hhalf := hholed.slots (i / 2) (by omega) (Nat.le_trans (Nat.div_le_self i 2) hholed.le)
      (by omega)
    obtain ⟨hin, hmoved, hknown⟩ :=
      ih (hrising.up htwo hholed.le ((hless _ _).mp hsooner))
        (hholed.move (by omega) (Nat.le_trans (Nat.div_le_self i 2) hholed.le) (by omega))
    rw [floatUp, if_pos ⟨htwo, hsooner⟩]
    exact ⟨hin, (moved_put hholed.pos (by omega) hhalf.1 hhalf.2.1).trans hmoved, hknown⟩
  | case2 i h hstop =>
    rw [floatUp, if_neg hstop]
    refine ⟨⟨hrising.ordered ?_, hholed.fill⟩, moved_put_self hholed.tracked, ?_⟩
    · intro htwo
      have hlate : ¬ less elt (h.pArray (i / 2)) = true := fun hsooner => hstop ⟨htwo, hsooner⟩
      rw [hless] at hlate
      exact not_lt.mp hlate
    · rw [put_index, Function.update_self]
      exact Nat.ne_of_gt hholed.pos

omit [DecidableEq α] in
/-- The smaller child is a child, and neither child is before it. -/
theorem child_spec (hless : Compares less key) (hpos : 0 < i) (hle : i ≤ h.nLast / 2) :
    child less i h / 2 = i ∧ i < child less i h ∧ child less i h ≤ h.nLast ∧
      ∀ j, j ≤ h.nLast → j / 2 = i → key (h.pArray (child less i h)) ≤ key (h.pArray j) := by
  unfold child
  split
  · rename_i hright
    obtain ⟨hlt, hsooner⟩ := hright
    rw [hless] at hsooner
    refine ⟨by omega, by omega, by omega, fun j hj hhalf => ?_⟩
    have hj : j = 2 * i ∨ j = 2 * i + 1 := by omega
    rcases hj with rfl | rfl
    · exact hsooner.le
    · exact le_rfl
  · rename_i hleft
    refine ⟨by omega, by omega, by omega, fun j hj hhalf => ?_⟩
    have hchild : j = 2 * i ∨ j = 2 * i + 1 := by omega
    rcases hchild with rfl | rfl
    · exact le_rfl
    · have hlate : ¬ less (h.pArray (2 * i + 1)) (h.pArray (2 * i)) = true :=
        fun hsooner => hleft ⟨by omega, hsooner⟩
      rw [hless] at hlate
      exact not_lt.mp hlate

/-- `_SinkDown` brings an element to its place that may be too late for the hole. -/
theorem sinkDown_inOrder (hless : Compares less key)
    (hsinking : Heaps.Sinking key h.nLast (Function.update h.pArray i elt) i)
    (hholed : Heaps.Holed P h.nLast h.pArray h.index i elt) :
    InOrder key P (sinkDown less i elt h) ∧ Moved P elt h (sinkDown less i elt h) ∧
      (sinkDown less i elt h).index elt ≠ 0 := by
  induction i, h using sinkDown.induct less elt with
  | case1 i h hchild hsooner =>
    obtain ⟨-, -, -, hmin⟩ := child_spec hless hchild.1 hchild.2
    rw [sinkDown, dif_pos hchild, if_pos hsooner]
    refine ⟨⟨hsinking.ordered ?_, hholed.fill⟩, moved_put_self hholed.tracked, ?_⟩
    · intro j _ hj hhalf
      exact ((hless _ _).mp hsooner).le.trans (hmin j hj hhalf)
    · rw [put_index, Function.update_self]
      exact Nat.ne_of_gt hholed.pos
  | case2 i h hchild hlate ih =>
    obtain ⟨hhalf, hlt, hle, hmin⟩ := child_spec hless hchild.1 hchild.2
    have hslot := hholed.slots (child less i h) (by omega) hle (by omega)
    rw [hless, not_lt] at hlate
    obtain ⟨hin, hmoved, hknown⟩ :=
      ih (hsinking.down hchild.1 hhalf hle hmin hlate)
        (hholed.move (by omega) hle (by omega))
    have hstop : ¬ less elt (h.pArray (child less i h)) = true := by
      rw [hless]
      exact not_lt.mpr hlate
    rw [sinkDown, dif_pos hchild, if_neg hstop]
    exact ⟨hin, (moved_put hholed.pos (by omega) hslot.1 hslot.2.1).trans hmoved, hknown⟩
  | case3 i h hleaf =>
    have hpos := hholed.pos
    rw [sinkDown, dif_neg hleaf]
    refine ⟨⟨hsinking.ordered ?_, hholed.fill⟩, moved_put_self hholed.tracked, ?_⟩
    · intro j htwo hj hhalf
      exact absurd ⟨hpos, by omega⟩ hleaf
    · rw [put_index, Function.update_self]
      omega

/-- The elements are in the memory that is allocated, whose place zero is not used. -/
def Fits (h : BCHeap α) : Prop := (h.nLast = 0 ∨ h.nLast < h.nSize) ∧ 2 ≤ h.nSizeIncrement

omit [DecidableEq α] in
/-- A heap that fits has grown within its memory. -/
theorem Fits.grow (hfits : h.Fits) : h.grow.Fits := by
  obtain ⟨hroom, hinc⟩ := hfits
  refine ⟨Or.inr ?_, hinc⟩
  simp only [BCHeap.grow]
  split <;> omega

omit [DecidableEq α] in
/-- Moving an element needs no memory. -/
theorem Moved.fits (hmoved : Moved P elt h h') (hfits : h.Fits) : h'.Fits := by
  obtain ⟨hroom, hinc⟩ := hfits
  unfold Fits
  rw [hmoved.nLast, hmoved.nSize, hmoved.nSizeIncrement]
  exact ⟨hroom, hinc⟩

/-- `HEAPCONDITION` holds everywhere, the client knows where all elements are, and they are in
the memory that is allocated. -/
structure Proper (key : α → κ) (h : BCHeap α) : Prop where
  /-- It is in order everywhere. -/
  inOrder : InOrder key (fun _ => True) h
  /-- It is within its memory. -/
  fits : h.Fits

omit [DecidableEq α] in
/-- A new heap is proper. -/
theorem proper_create [Inhabited α] {inc : ℕ} (hinc : inc ≠ 1) :
    (create inc : BCHeap α).Proper key where
  inOrder :=
    { ordered := fun i htwo hle => absurd hle (by simp only [create]; omega)
      placed :=
        { slots := fun i hpos hle => absurd hle (by simp only [create]; omega)
          known := fun x _ hindex => absurd rfl hindex } }
  fits := by
    refine ⟨Or.inl rfl, ?_⟩
    simp only [create, sizeIncrement]
    split <;> omega

omit [DecidableEq α] in
/-- The client may give another key to an element that is not in the heap. -/
theorem Proper.congr (hproper : h.Proper key) (hkey : ∀ x, h.index x ≠ 0 → key' x = key x) :
    h.Proper key' where
  inOrder :=
    { ordered := hproper.inOrder.ordered.congr fun i hpos hle => hkey _ (by
        rw [(hproper.inOrder.placed.slots i hpos hle).1]
        omega)
      placed := hproper.inOrder.placed }
  fits := hproper.fits

/-- `Insert` of an element that is not in the heap, with the memory that it needs. -/
theorem Proper.insert (hless : Compares less key) (hproper : h.Proper key)
    (hnew : h.index elt = 0) {memory : Bool}
    (hmemory : h.nSize ≤ h.nLast + 1 → memory = true) :
    (h.insert less elt memory).2.Proper key ∧ (h.insert less elt memory).2.nLast = h.nLast + 1 ∧
      ∀ x, (h.insert less elt memory).2.index x = 0 ↔ x ≠ elt ∧ h.index x = 0 := by
  rw [insert_of_memory hmemory]
  dsimp only
  obtain ⟨hin, hmoved, hknown⟩ :
      InOrder key (fun _ => True) (floatUp less h.grow.nLast elt h.grow) ∧
        Moved (fun _ => True) elt h.grow (floatUp less h.grow.nLast elt h.grow) ∧
          (floatUp less h.grow.nLast elt h.grow).index elt ≠ 0 := by
    apply floatUp_inOrder hless
    · rw [grow_nLast, grow_pArray]
      exact hproper.inOrder.ordered.rising_last elt
    · rw [grow_nLast, grow_pArray, grow_index]
      exact hproper.inOrder.placed.holed_last trivial hnew
  refine ⟨⟨hin, hmoved.fits hproper.fits.grow⟩, by rw [hmoved.nLast, grow_nLast], fun x => ?_⟩
  by_cases hx : x = elt
  · subst hx
    exact ⟨fun hzero => absurd hzero hknown, fun hother => absurd rfl hother.1⟩
  · rw [hmoved.members x hx, grow_index]
    simp [hx]

/-- `Increased` or `Decreased`, as the new key of an element is. -/
theorem Proper.change (hproper : h.Proper key) (hmem : h.index elt ≠ 0)
    (hkey : ∀ x, x ≠ elt → key' x = key x) (hless : Compares less key') :
    (key' elt ≤ key elt → (h.increased less (h.index elt)).Proper key' ∧
      (h.increased less (h.index elt)).nLast = h.nLast ∧
      ∀ x, (h.increased less (h.index elt)).index x = 0 ↔ h.index x = 0) ∧
    (key elt ≤ key' elt → (h.decreased less (h.index elt)).Proper key' ∧
      (h.decreased less (h.index elt)).nLast = h.nLast ∧
      ∀ x, (h.decreased less (h.index elt)).index x = 0 ↔ h.index x = 0) := by
  obtain ⟨hordered, hplaced⟩ := hproper.inOrder
  obtain ⟨hle, heq⟩ := hplaced.known elt trivial hmem
  have hholed := hplaced.holed (by omega) hle
  have hsame : ∀ i, 1 ≤ i → i ≤ h.nLast → i ≠ h.index elt →
      key' (h.pArray i) = key (h.pArray i) := by
    intro i hpos hil hne
    refine hkey _ fun hself => hne ?_
    rw [← hself, (hplaced.slots i hpos hil).1]
  have hall : ∀ h', Moved (fun _ => True) (h.pArray (h.index elt)) h h' →
      h'.index (h.pArray (h.index elt)) ≠ 0 → ∀ x, h'.index x = 0 ↔ h.index x = 0 := by
    intro h' hmoved hknown x
    rw [heq] at hmoved hknown
    by_cases hx : x = elt
    · rw [hx]
      exact ⟨fun hzero => absurd hzero hknown, fun hzero => absurd hzero hmem⟩
    · exact hmoved.members x hx
  constructor
  · intro hsooner
    obtain ⟨hin, hmoved, hknown⟩ := floatUp_inOrder hless
      (hordered.rising hle hsame (by rwa [heq])) hholed
    exact ⟨⟨hin, hmoved.fits hproper.fits⟩, hmoved.nLast, hall _ hmoved hknown⟩
  · intro hlater
    obtain ⟨hin, hmoved, hknown⟩ := sinkDown_inOrder hless
      (hordered.sinking hle hsame (by rwa [heq])) hholed
    exact ⟨⟨hin, hmoved.fits hproper.fits⟩, hmoved.nLast, hall _ hmoved hknown⟩

/-- The heap in which the last element is to come to the place of the one to be deleted. -/
def hollow (i : ℕ) (h : BCHeap α) : BCHeap α :=
  { h with nLast := h.nLast - 1, pArray := Function.update h.pArray i (h.pArray h.nLast) }

omit [DecidableEq α] [LinearOrder κ] in
/-- A hole that is filled leaves one element fewer, within the memory. -/
theorem Moved.hollow (hmoved : Moved P elt (h.hollow i) h') (hpos : 1 ≤ h.nLast) :
    h'.nLast + 1 = h.nLast ∧ (h.Fits → h'.Fits) := by
  obtain ⟨hlast, hsize, hinc, -, -⟩ := hmoved
  simp only [BCHeap.hollow] at hlast hsize hinc
  unfold Fits
  rw [hlast, hsize, hinc]
  omega

/-- `Delete` moves the last element, if it is not the one to be deleted, and the client knows
where all but the deleted one are, whatever it knows of that one. -/
theorem delete_inOrder (hless : Compares less key) {index : α → ℕ}
    (hordered : Heaps.Ordered key h.nLast h.pArray)
    (hplaced : Heaps.Placed P h.nLast h.pArray index)
    (hindex : ∀ x, x ≠ h.pArray i → h.index x = index x) (hpos : 1 ≤ i) (hle : i ≤ h.nLast) :
    InOrder key (fun x => P x ∧ x ≠ h.pArray i) (h.delete less i) ∧
      ((h.delete less i).nLast + 1 = h.nLast ∧ (h.Fits → (h.delete less i).Fits)) ∧
      (∀ x, x ≠ h.pArray i → ((h.delete less i).index x = 0 ↔ h.index x = 0)) ∧
      (h.delete less i).index (h.pArray i) = h.index (h.pArray i) := by
  obtain ⟨last, hlast⟩ : ∃ last, h.nLast = last + 1 := ⟨h.nLast - 1, by omega⟩
  by_cases hend : i = h.nLast
  · have hdelete : h.delete less i = { h with nLast := last } := by
      unfold delete
      rw [if_pos hend, hlast, Nat.add_sub_cancel]
    rw [hdelete]
    rw [hlast] at hordered hplaced
    refine ⟨⟨hordered.mono (Nat.le_succ last), ?_⟩, ⟨hlast.symm, ?_⟩, fun x _ => Iff.rfl, rfl⟩
    · rw [hend, hlast]
      refine hplaced.drop.congr fun x hx => hindex x ?_
      rw [hend, hlast]
      exact hx.2
    · rintro ⟨hroom, hinc⟩
      exact ⟨by simp only; omega, hinc⟩
  · have hdelete : h.delete less i =
        if less (h.pArray h.nLast) (h.pArray i) = true then
          floatUp less i (h.pArray h.nLast) (h.hollow i)
        else sinkDown less i (h.pArray h.nLast) (h.hollow i) := by
      unfold delete
      rw [if_neg hend]
      rfl
    have hle : i ≤ last := by omega
    have hholed : Heaps.Holed (fun x => P x ∧ x ≠ h.pArray i) (h.hollow i).nLast
        (h.hollow i).pArray (h.hollow i).index i (h.pArray h.nLast) := by
      simp only [hollow, hlast, Nat.add_sub_cancel]
      rw [hlast] at hplaced
      exact ((hplaced.replace hpos hle).congr fun x hx => hindex x hx.2).update_hole
    have hshort : Heaps.Ordered key last h.pArray := by
      rw [hlast] at hordered
      exact hordered.mono (Nat.le_succ last)
    have hmoves : ∀ h', Moved (fun x => P x ∧ x ≠ h.pArray i) (h.pArray h.nLast) (h.hollow i) h' →
        h'.index (h.pArray h.nLast) ≠ 0 →
        (∀ x, x ≠ h.pArray i → (h'.index x = 0 ↔ h.index x = 0)) ∧
          h'.index (h.pArray i) = h.index (h.pArray i) := by
      intro h' hmoved hknown
      refine ⟨fun x hx => ?_, hmoved.outside _ fun hself => hself.2 rfl⟩
      by_cases hxlast : x = h.pArray h.nLast
      · have hindexlast : h.index x ≠ 0 := by
          rw [hindex x hx, hxlast, (hplaced.slots h.nLast (by omega) (Nat.le_refl _)).1]
          omega
        rw [hxlast] at hindexlast ⊢
        exact ⟨fun hzero => absurd hzero hknown, fun hzero => absurd hzero hindexlast⟩
      · exact hmoved.members x hxlast
    rw [hdelete]
    split
    · rename_i hsooner
      rw [hless] at hsooner
      obtain ⟨hin, hmoved, hknown⟩ := floatUp_inOrder hless (h := h.hollow i)
        (by
          simp only [hollow, hlast, Nat.add_sub_cancel, Function.update_idem]
          rw [hlast] at hsooner
          exact hshort.rising hle (fun _ _ _ _ => rfl) hsooner.le) hholed
      exact ⟨hin, hmoved.hollow (by omega), hmoves _ hmoved hknown⟩
    · rename_i hlater
      rw [hless, not_lt] at hlater
      obtain ⟨hin, hmoved, hknown⟩ := sinkDown_inOrder hless (h := h.hollow i)
        (by
          simp only [hollow, hlast, Nat.add_sub_cancel, Function.update_idem]
          rw [hlast] at hlater
          exact hshort.sinking hle (fun _ _ _ _ => rfl) hlater) hholed
      exact ⟨hin, hmoved.hollow (by omega), hmoves _ hmoved hknown⟩

/-- `Delete` of an element, after which the client notes that it is in the heap no longer. -/
theorem Proper.delete_setIndex (hless : Compares less key) (hproper : h.Proper key)
    (hmem : h.index elt ≠ 0) :
    ((h.delete less (h.index elt)).setIndex elt 0).Proper key ∧
      (h.delete less (h.index elt)).nLast + 1 = h.nLast ∧
      ∀ x, ((h.delete less (h.index elt)).setIndex elt 0).index x = 0 ↔
        x = elt ∨ h.index x = 0 := by
  obtain ⟨hle, heq⟩ := hproper.inOrder.placed.known elt trivial hmem
  obtain ⟨hin, ⟨hlast, hfits⟩, hmembers, -⟩ := delete_inOrder hless hproper.inOrder.ordered
    hproper.inOrder.placed (fun _ _ => rfl) (by omega) hle
  rw [heq] at hin hmembers
  refine ⟨⟨⟨hin.ordered, ?_⟩, hfits hproper.fits⟩, hlast, fun x => ?_⟩
  · have hplaced : Heaps.Placed (fun x => True ∧ x ≠ elt) (h.delete less (h.index elt)).nLast
        (h.delete less (h.index elt)).pArray ((h.delete less (h.index elt)).setIndex elt 0).index :=
      hin.placed.congr fun x hx => by rw [setIndex_index, Function.update_of_ne hx.2]
    refine hplaced.forget ?_
    rw [setIndex_index, Function.update_self]
  · by_cases hx : x = elt
    · simp [hx]
    · rw [setIndex_index, Function.update_of_ne hx, hmembers x hx]
      simp [hx]

/-- `Delete` of the first element, which the client has noted before. -/
theorem Proper.setIndex_delete (hless : Compares less key) (hproper : h.Proper key)
    (hfirst : h.element 1 = some elt) :
    ((h.setIndex elt 0).delete less 1).Proper key ∧
      ((h.setIndex elt 0).delete less 1).nLast + 1 = h.nLast ∧
      ∀ x, ((h.setIndex elt 0).delete less 1).index x = 0 ↔ x = elt ∨ h.index x = 0 := by
  obtain ⟨hpos, heq⟩ := element_one_eq_some.mp hfirst
  have hsame : ∀ x, x ≠ (h.setIndex elt 0).pArray 1 → (h.setIndex elt 0).index x = h.index x := by
    intro x hx
    rw [setIndex_pArray, heq] at hx
    rw [setIndex_index, Function.update_of_ne hx]
  obtain ⟨hin, ⟨hlast, hfits⟩, hmembers, hgone⟩ := delete_inOrder (h := h.setIndex elt 0) hless
    hproper.inOrder.ordered hproper.inOrder.placed hsame (Nat.le_refl 1) hpos
  rw [setIndex_pArray, heq] at hin hmembers hgone
  rw [setIndex_index, Function.update_self] at hgone
  refine ⟨⟨⟨hin.ordered, hin.placed.forget hgone⟩, hfits hproper.fits⟩, hlast, fun x => ?_⟩
  by_cases hx : x = elt
  · simp [hx, hgone]
  · rw [hmembers x hx, setIndex_index, Function.update_of_ne hx]
    simp [hx]

omit [DecidableEq α] in
/-- The first element is one of those with the least key. -/
theorem Proper.element_one_le (hproper : h.Proper key) (hfirst : h.element 1 = some elt) :
    h.index elt = 1 ∧ ∀ x, h.index x ≠ 0 → key elt ≤ key x := by
  obtain ⟨hpos, heq⟩ := element_one_eq_some.mp hfirst
  constructor
  · rw [← heq, (hproper.inOrder.placed.slots 1 (Nat.le_refl 1) hpos).1]
  · intro x hx
    obtain ⟨hle, hslot⟩ := hproper.inOrder.placed.known x trivial hx
    rw [← heq, ← hslot]
    exact hproper.inOrder.ordered.root_le (by omega) hle

omit [DecidableEq α] in
/-- There is a first element exactly when there is any. -/
theorem Proper.element_one_none (hproper : h.Proper key) :
    h.element 1 = none ↔ ∀ x, h.index x = 0 := by
  rw [element_one_eq_none]
  constructor
  · intro hempty x
    by_contra hx
    obtain ⟨hle, -⟩ := hproper.inOrder.placed.known x trivial hx
    omega
  · intro hall
    by_contra hne
    have hfirst := (hproper.inOrder.placed.slots 1 (Nat.le_refl 1) (by omega)).1
    rw [hall] at hfirst
    omega

/-! ## A client -/

/-- A client keeps a priority for each element, and takes elements out in their order. -/
structure Client (α κ : Type*) where
  /-- The heap. -/
  heap : BCHeap α
  /-- The keys of the elements. -/
  priority : α → κ
  /-- The elements that have been taken out, in order. -/
  taken : List α

namespace Client

/-- The comparison that the client has given to `Create`. -/
def sooner (c : Client α κ) (x y : α) : Bool := decide (c.priority x < c.priority y)

/-- What a client does: it gives an element a priority and puts it into the heap if it is not
there, when the pool has memory or not, it takes an element out, or it takes the first one. -/
inductive Op (α κ : Type*) where
  | schedule (x : α) (k : κ) (memory : Bool)
  | deschedule (x : α)
  | takeFirst

/-- An element gets a priority, by which it is moved or inserted. -/
def schedule (c : Client α κ) (x : α) (k : κ) (memory : Bool) : Client α κ :=
  let c' := { c with priority := Function.update c.priority x k }
  if 0 < c.heap.index x then
    if k < c.priority x then { c' with heap := c.heap.increased c'.sooner (c.heap.index x) }
    else if c.priority x < k then
      { c' with heap := c.heap.decreased c'.sooner (c.heap.index x) }
    else c'
  else { c' with heap := (c.heap.insert c'.sooner x memory).2 }

/-- An element is deleted if it is in the heap. -/
def deschedule (c : Client α κ) (x : α) : Client α κ :=
  if 0 < c.heap.index x then
    { c with heap := (c.heap.delete c.sooner (c.heap.index x)).setIndex x 0 }
  else c

/-- The first element is deleted. -/
def takeFirst (c : Client α κ) : Client α κ :=
  match c.heap.element 1 with
  | some x =>
    { c with heap := (c.heap.setIndex x 0).delete c.sooner 1, taken := c.taken ++ [x] }
  | none => c

/-- One operation of the client. -/
def step (c : Client α κ) : Op α κ → Client α κ
  | .schedule x k memory => c.schedule x k memory
  | .deschedule x => c.deschedule x
  | .takeFirst => c.takeFirst

/-- An insertion that needs memory gets it, and the places can be counted in bytes with 32 bits. -/
def Affords (c : Client α κ) : Op α κ → Prop
  | .schedule x _ memory =>
    c.heap.index x = 0 → c.heap.nSize ≤ c.heap.nLast + 1 →
      memory = true ∧ c.heap.nSize + c.heap.nSizeIncrement < 2 ^ 29
  | _ => True

/-- A client of an empty heap. -/
def start [Inhabited α] (inc : ℕ) (priority : α → κ) : Client α κ := ⟨create inc, priority, []⟩

end Client

/-! ## What the heap is for -/

/-- A queue of elements with priorities, and the elements that have been taken out of it. -/
structure PriorityQueue (α κ : Type*) where
  /-- The key of each element that waits. -/
  waiting : α → Option κ
  /-- What has been taken out. -/
  taken : List α

namespace PriorityQueue

/-- An operation on the queue. One of the elements with the least priority is taken. -/
inductive Step : Client.Op α κ → PriorityQueue α κ → PriorityQueue α κ → Prop
  | schedule (x : α) (k : κ) (memory : Bool) (q : PriorityQueue α κ) :
      Step (.schedule x k memory) q { q with waiting := Function.update q.waiting x (some k) }
  | deschedule (x : α) (q : PriorityQueue α κ) :
      Step (.deschedule x) q { q with waiting := Function.update q.waiting x none }
  | takeFirst (x : α) (k : κ) (q : PriorityQueue α κ) (hx : q.waiting x = some k)
      (hmin : ∀ y k', q.waiting y = some k' → k ≤ k') :
      Step .takeFirst q ⟨Function.update q.waiting x none, q.taken ++ [x]⟩
  | takeNone (q : PriorityQueue α κ) (hempty : ∀ x, q.waiting x = none) : Step .takeFirst q q

/-- The empty queue. -/
def empty : PriorityQueue α κ := ⟨fun _ => none, []⟩

end PriorityQueue

namespace Client

/-- The client's heap holds the queue. -/
structure Holds (c : Client α κ) (q : PriorityQueue α κ) : Prop where
  /-- The heap is proper. -/
  proper : c.heap.Proper c.priority
  /-- The elements that wait are those with an index, under their keys. -/
  waiting : ∀ x, q.waiting x = if c.heap.index x = 0 then none else some (c.priority x)
  /-- The same elements have been taken out. -/
  taken : q.taken = c.taken

variable {c : Client α κ} {q : PriorityQueue α κ}

omit [DecidableEq α] in
/-- The comparison is that of the keys. -/
theorem sooner_compares : Compares c.sooner c.priority := by
  intro x y
  simp [sooner]

/-- Scheduling an element puts it under its key, where the memory is given. -/
theorem Holds.schedule (h : c.Holds q) (x : α) (k : κ) {memory : Bool}
    (hmemory : c.heap.index x = 0 → c.heap.nSize ≤ c.heap.nLast + 1 → memory = true) :
    (c.schedule x k memory).Holds { q with waiting := Function.update q.waiting x (some k) } := by
  have hkey : ∀ y, y ≠ x → Function.update c.priority x k y = c.priority y :=
    fun y hy => Function.update_of_ne hy _ _
  have hless : Compares { c with priority := Function.update c.priority x k }.sooner
      (Function.update c.priority x k) := sooner_compares
  -- What stays in the heap has the priority it had, and `x` has the new one.
  have hwaiting : ∀ h' : BCHeap α, (∀ y, h'.index y = 0 ↔ y ≠ x ∧ c.heap.index y = 0) →
      ∀ y, Function.update q.waiting x (some k) y =
        if h'.index y = 0 then none else some (Function.update c.priority x k y) := by
    intro h' hmembers y
    by_cases hy : y = x
    · subst hy
      have hin : h'.index y ≠ 0 := fun hzero => ((hmembers y).mp hzero).1 rfl
      simp [hin]
    · rw [Function.update_of_ne hy, hkey y hy, h.waiting y]
      simp only [hmembers y, hy, ne_eq, not_false_eq_true, true_and]
  unfold Client.schedule
  dsimp only
  split
  · rename_i hin
    have hne : c.heap.index x ≠ 0 := by omega
    have hsame : ∀ h' : BCHeap α, (∀ y, h'.index y = 0 ↔ c.heap.index y = 0) →
        ∀ y, h'.index y = 0 ↔ y ≠ x ∧ c.heap.index y = 0 := by
      intro h' hmembers y
      rw [hmembers y]
      exact ⟨fun hy => ⟨by rintro rfl; exact hne hy, hy⟩, fun hy => hy.2⟩
    obtain ⟨hup, hdown⟩ := h.proper.change hne hkey hless
    rw [Function.update_self] at hup hdown
    split
    · rename_i hsooner
      obtain ⟨hproper, -, hmembers⟩ := hup hsooner.le
      exact ⟨hproper, hwaiting _ (hsame _ hmembers), h.taken⟩
    · rename_i hearly
      split
      · rename_i hlater
        obtain ⟨hproper, -, hmembers⟩ := hdown hlater.le
        exact ⟨hproper, hwaiting _ (hsame _ hmembers), h.taken⟩
      · rename_i hlate
        have heq : k = c.priority x := le_antisymm (not_lt.mp hlate) (not_lt.mp hearly)
        have hpriority : Function.update c.priority x k = c.priority := by
          rw [heq, Function.update_eq_self]
        refine ⟨?_, hwaiting _ (hsame _ fun _ => Iff.rfl), h.taken⟩
        simp only [hpriority]
        exact h.proper
  · rename_i hout
    have hnew : c.heap.index x = 0 := by omega
    have hcongr : c.heap.Proper (Function.update c.priority x k) :=
      h.proper.congr fun y hy => hkey y (by rintro rfl; exact hy hnew)
    obtain ⟨hproper, -, hmembers⟩ := hcongr.insert hless hnew (hmemory hnew)
    exact ⟨hproper, hwaiting _ hmembers, h.taken⟩

/-- What is deleted from the heap is taken out of the queue. -/
theorem Holds.remove (h : c.Holds q) {x : α} {h' : BCHeap α} {taken : List α}
    (hproper : h'.Proper c.priority)
    (hmembers : ∀ y, h'.index y = 0 ↔ y = x ∨ c.heap.index y = 0) :
    Holds ⟨h', c.priority, taken⟩ ⟨Function.update q.waiting x none, taken⟩ where
  proper := hproper
  waiting y := by
    by_cases hy : y = x
    · simp [hy, hmembers]
    · simp only [Function.update_of_ne hy, h.waiting y, hmembers y, hy, false_or]
  taken := rfl

/-- Descheduling an element takes it off the queue. -/
theorem Holds.deschedule (h : c.Holds q) (x : α) :
    (c.deschedule x).Holds { q with waiting := Function.update q.waiting x none } := by
  unfold Client.deschedule
  rw [h.taken]
  split
  · rename_i hin
    obtain ⟨hproper, -, hmembers⟩ :=
      h.proper.delete_setIndex sooner_compares (Nat.ne_of_gt hin)
    exact h.remove hproper hmembers
  · rename_i hout
    have hzero : c.heap.index x = 0 := by omega
    have hnone : Function.update q.waiting x none = q.waiting := by
      rw [Function.update_eq_self_iff, h.waiting x, if_pos hzero]
    rw [hnone, ← h.taken]
    exact h

/-- Taking the first element takes one of the least key. -/
theorem Holds.takeFirst (h : c.Holds q) :
    ∃ q', PriorityQueue.Step .takeFirst q q' ∧ c.takeFirst.Holds q' := by
  unfold Client.takeFirst
  split
  · rename_i x hfirst
    obtain ⟨hindex, hleast⟩ := h.proper.element_one_le hfirst
    obtain ⟨hproper, -, hmembers⟩ := h.proper.setIndex_delete sooner_compares hfirst
    refine ⟨_, .takeFirst x (c.priority x) q ?_ ?_, h.taken ▸ h.remove hproper hmembers⟩
    · rw [h.waiting x, hindex, if_neg (by omega)]
    · intro y k' hy
      rw [h.waiting y] at hy
      split at hy
      · exact absurd hy (by simp)
      · rename_i hin
        rw [← Option.some.inj hy]
        exact hleast y hin
  · rename_i hfirst
    have hall := h.proper.element_one_none.mp hfirst
    exact ⟨q, .takeNone q fun x => by rw [h.waiting x, if_pos (hall x)], h⟩

/-- Every operation that gets its memory is one on the queue. -/
theorem Holds.step (h : c.Holds q) {op : Op α κ} (hop : c.Affords op) :
    ∃ q', PriorityQueue.Step op q q' ∧ (c.step op).Holds q' := by
  cases op with
  | schedule x k memory =>
    exact ⟨_, .schedule x k memory q, h.schedule x k fun hnew hfull => (hop hnew hfull).1⟩
  | deschedule x => exact ⟨_, .deschedule x q, h.deschedule x⟩
  | takeFirst => exact h.takeFirst

end Client

end BCHeap

end BC
