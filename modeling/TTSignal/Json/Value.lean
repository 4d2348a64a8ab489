import Mathlib.Data.Int.Notation
import Mathlib.Data.Nat.Notation
import Mathlib.Tactic.Basic

/-!
# JSON values

`Json::Value` is a value of one of eight types. Keyed access with `operator[]` asserts that
the value is null or an object, and makes a null value an object and a missing member null.
The members of an object are kept as a list without repetitions; their order, which only
a writer sees, is not kept.
-/

namespace Json

/-- `Json::Value`. -/
inductive Value where
  | null
  | int (value : ℤ)
  | uint (value : ℕ)
  | real (value : Float)
  | string (value : List UInt8)
  | boolean (value : Bool)
  | array (elements : List Value)
  | object (members : List (List UInt8 × Value))

/-- What can go wrong in a keyed access: `JSON_ASSERT` on the type of the value. -/
inductive Fault where
  | typeAssertion
  deriving DecidableEq, Repr

namespace Value

/-- `isObject`, which also holds of null. -/
def isObject : Value → Bool
  | .null | .object _ => true
  | _ => false

/-- The members of a value. -/
def members : Value → List (List UInt8 × Value)
  | .object members => members
  | _ => []

/-- The value of a member, null if there is none. -/
def member (v : Value) (key : List UInt8) : Value :=
  ((v.members.find? fun entry => entry.1 == key).map Prod.snd).getD .null

/-- A missing member is entered with a null value. -/
def enter (members : List (List UInt8 × Value)) (key : List UInt8) :
    List (List UInt8 × Value) :=
  if members.any fun entry => entry.1 == key then members else members ++ [(key, .null)]

/-- `resolveReference`, the body of `operator[]`: the value after the access. -/
def resolveReference (v : Value) (key : List UInt8) : Except Fault Value :=
  match v with
  | .null => .ok (.object (enter [] key))
  | .object members => .ok (.object (enter members key))
  | _ => .error .typeAssertion

/-- An existing member is overwritten. -/
def overwrite (v : Value) (key : List UInt8) (x : Value) : Value :=
  .object (v.members.map fun entry => if entry.1 == key then (key, x) else entry)

/-- `v[key] = x`. -/
def assign (v : Value) (key : List UInt8) (x : Value) : Except Fault Value :=
  (v.resolveReference key).map fun v => v.overwrite key x

/-- A C string ends at its first zero byte. -/
def cString (s : List UInt8) : List UInt8 := s.takeWhile (· ≠ 0)

/-- `v == n` for an `Int`. -/
def eqInt (n : ℤ) : Value → Bool
  | .int m => m = n
  | _ => false

/-- `v == s` for a string literal. -/
def eqString (s : List UInt8) : Value → Bool
  | .string t => cString t = cString s
  | _ => false

/-- An access changes no member: a missing one was null before. -/
theorem member_of_resolveReference {v v' : Value} {key : List UInt8}
    (h : v.resolveReference key = .ok v') (other : List UInt8) :
    v'.member other = v.member other := by
  have henter (members : List (List UInt8 × Value)) :
      (Value.object (enter members key)).member other = (Value.object members).member other := by
    simp only [member, Value.members, enter]
    split
    case isTrue => rfl
    case isFalse =>
      rw [List.find?_append]
      cases members.find? fun entry => entry.1 == other with
      | some entry => rfl
      | none => by_cases hkey : key == other <;> simp [hkey]
  cases v with
  | null =>
    rw [← Except.ok.inj h]
    exact henter []
  | object members =>
    rw [← Except.ok.inj h]
    exact henter members
  | _ => exact absurd h (by simp [resolveReference])

/-- What an access leaves is an object. -/
theorem isObject_of_resolveReference {v v' : Value} {key : List UInt8}
    (h : v.resolveReference key = .ok v') : v'.isObject = true := by
  cases v <;> simp only [resolveReference, Except.ok.injEq, reduceCtorEq] at h
  all_goals
    rw [← h]
    rfl

/-- An access succeeds exactly on null and on objects. -/
theorem resolveReference_ok_iff (v : Value) (key : List UInt8) :
    (∃ v', v.resolveReference key = .ok v') ↔ v.isObject = true := by
  cases v <;> simp [resolveReference, isObject]

/-- An access to null or an object. -/
theorem exists_resolveReference {v : Value} (h : v.isObject = true) (key : List UInt8) :
    ∃ v', v.resolveReference key = .ok v' ∧ v'.isObject = true := by
  obtain ⟨v', hv'⟩ := (resolveReference_ok_iff v key).mpr h
  exact ⟨v', hv', isObject_of_resolveReference hv'⟩

/-- An access to any other value. -/
theorem resolveReference_error {v : Value} (h : ¬ v.isObject = true) (key : List UInt8) :
    v.resolveReference key = .error .typeAssertion := by
  cases v <;> simp_all [resolveReference, isObject]

/-- An assignment to a member of null or an object. -/
theorem exists_assign {v : Value} (h : v.isObject = true) (key : List UInt8) (x : Value) :
    ∃ v', v.assign key x = .ok v' ∧ v'.isObject = true := by
  obtain ⟨w, hw, -⟩ := exists_resolveReference h key
  exact ⟨w.overwrite key x, by rw [assign, hw]; rfl, rfl⟩

/-- An assignment to a member of any other value. -/
theorem assign_error {v : Value} (h : ¬ v.isObject = true) (key : List UInt8) (x : Value) :
    v.assign key x = .error .typeAssertion := by
  rw [assign, resolveReference_error h]
  rfl

end Value

end Json
