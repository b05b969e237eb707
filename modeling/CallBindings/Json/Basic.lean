import CallBindings.Number.Binary64
import CallBindings.Text.Basic

set_option autoImplicit false

/-! # JSON values

A JSON value keeps what its text distinguishes: integers of any size and floating point
numbers are different kinds, and the members of an object stay in the order in which their
names first appear. Writing a name again replaces the value at its place.
-/

namespace CallBindings

/-- A JSON value. -/
inductive Json where
  | null
  | bool (b : Bool)
  | int (n : Int)
  | float (x : Binary64)
  | str (t : Text)
  | arr (items : List Json)
  | obj (members : List (Text × Json))

/-- The value under the first entry with key `k`. -/
def lookup? {α : Type} (k : Text) : List (Text × α) → Option α
  | [] => none
  | (k', v) :: rest => if k' = k then some v else lookup? k rest

/-- Sets the value of `k`: at its place if it is there, at the end otherwise. -/
def assign {α : Type} (k : Text) (v : α) : List (Text × α) → List (Text × α)
  | [] => [(k, v)]
  | (k', v') :: rest => if k' = k then (k', v) :: rest else (k', v') :: assign k v rest

/-- Sets the entries of `updates` one after another. -/
def assignAll {α : Type} (entries updates : List (Text × α)) : List (Text × α) :=
  updates.foldl (fun acc e => assign e.1 e.2 acc) entries

/-- Whether some entry has key `k`. -/
def hasKey {α : Type} (k : Text) (entries : List (Text × α)) : Bool := (lookup? k entries).isSome

namespace Json

instance : Inhabited Json := ⟨.null⟩

instance : Coe Text Json := ⟨.str⟩

/-- The kinds of JSON value. -/
inductive Kind where
  | null | bool | int | float | str | list | dict
deriving DecidableEq

/-- The kind of a value. -/
def kind : Json → Kind
  | .null => .null
  | .bool _ => .bool
  | .int _ => .int
  | .float _ => .float
  | .str _ => .str
  | .arr _ => .list
  | .obj _ => .dict

/-- The name of a kind in messages. -/
def Kind.name : Kind → Text
  | .null => "NoneType"
  | .bool => "bool"
  | .int => "int"
  | .float => "float"
  | .str => "str"
  | .list => "list"
  | .dict => "dict"

/-- The member of an object with name `k`; other values have none. -/
def get? (k : Text) : Json → Option Json
  | .obj members => lookup? k members
  | _ => none

/-- The member with name `k`, `null` if there is none. -/
def getD (k : Text) (j : Json) : Json := (j.get? k).getD .null

/-- Whether the value counts as true: anything but null, false, zero and the empty text, list
and object. -/
def truthy : Json → Bool
  | .null => false
  | .bool b => b
  | .int n => n ≠ 0
  | .float x => !x.isZero
  | .str t => !t.isEmpty
  | .arr items => !items.isEmpty
  | .obj members => !members.isEmpty

/-- Whether the value is null. -/
def isNull : Json → Bool
  | .null => true
  | _ => false

mutual

/-- Equality of values in which numbers of different kinds are compared as numbers, a truth
value counting as zero or one. -/
def numEq : Json → Json → Bool
  | .null, .null => true
  | .bool a, .bool b => a == b
  | .bool a, .int n => (if a then 1 else 0) == n
  | .int n, .bool b => n == (if b then 1 else 0)
  | .bool a, .float y => y.equalsInt (if a then 1 else 0)
  | .float x, .bool b => x.equalsInt (if b then 1 else 0)
  | .int a, .int b => a == b
  | .int a, .float y => y.equalsInt a
  | .float x, .int b => x.equalsInt b
  | .float x, .float y => x.numEq y
  | .str s, .str t => s == t
  | .arr xs, .arr ys => numEqItems xs ys
  | .obj xs, .obj ys => xs.length == ys.length && numEqMembers xs ys
  | _, _ => false

/-- Item by item equality. -/
def numEqItems : List Json → List Json → Bool
  | [], [] => true
  | x :: xs, y :: ys => x.numEq y && numEqItems xs ys
  | _, _ => false

/-- Whether each member of the first object has an equal one in the second. -/
def numEqMembers : List (Text × Json) → List (Text × Json) → Bool
  | [], _ => true
  | (k, x) :: xs, ys =>
    (match lookup? k ys with
     | some y => x.numEq y
     | none => false) && numEqMembers xs ys

end

end Json

end CallBindings
