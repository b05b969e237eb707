import CallBindings.Json.Basic
import Mathlib

set_option autoImplicit false

/-! # Equality of JSON values

Whether two values are the same can be computed. Numbers are compared by their representation:
an integer is never a floating point number, and zeros of different sign are different.
-/

namespace CallBindings.Json

mutual

/-- Whether two values are the same. -/
def same : Json → Json → Bool
  | .null, .null => true
  | .bool a, .bool b => a == b
  | .int a, .int b => a == b
  | .float x, .float y => x == y
  | .str s, .str t => s == t
  | .arr xs, .arr ys => sameItems xs ys
  | .obj xs, .obj ys => sameMembers xs ys
  | _, _ => false

/-- Whether two lists have the same items. -/
def sameItems : List Json → List Json → Bool
  | [], [] => true
  | x :: xs, y :: ys => x.same y && sameItems xs ys
  | _, _ => false

/-- Whether two objects have the same members in the same order. -/
def sameMembers : List (Text × Json) → List (Text × Json) → Bool
  | [], [] => true
  | (k, x) :: xs, (l, y) :: ys => k == l && (x.same y && sameMembers xs ys)
  | _, _ => false

end

mutual

theorem same_iff : ∀ i j : Json, i.same j = true ↔ i = j
  | .null, j => by cases j <;> simp [same]
  | .bool _, j => by cases j <;> simp [same]
  | .int _, j => by cases j <;> simp [same]
  | .float _, j => by cases j <;> simp [same]
  | .str _, j => by cases j <;> simp [same]
  | .arr xs, j => by cases j <;> simp [same, sameItems_iff xs]
  | .obj xs, j => by cases j <;> simp [same, sameMembers_iff xs]

theorem sameItems_iff : ∀ xs ys : List Json, sameItems xs ys = true ↔ xs = ys
  | [], ys => by cases ys <;> simp [sameItems]
  | x :: xs, ys => by cases ys <;> simp [sameItems, same_iff x, sameItems_iff xs]

theorem sameMembers_iff : ∀ xs ys : List (Text × Json), sameMembers xs ys = true ↔ xs = ys
  | [], ys => by cases ys <;> simp [sameMembers]
  | (k, x) :: xs, ys => by
      cases ys <;> simp [sameMembers, same_iff x, sameMembers_iff xs, Prod.ext_iff, and_assoc]

end

instance : DecidableEq Json := fun i j => decidable_of_iff _ (same_iff i j)

end CallBindings.Json
