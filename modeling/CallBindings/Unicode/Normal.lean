import CallBindings.Unicode.CombiningClassTable
import CallBindings.Unicode.CompositionTable
import CallBindings.Unicode.DecompositionTable
import CallBindings.Unicode.Range

set_option autoImplicit false

/-! # Compatibility composition (NFKC)

A text is brought to its compatibility composed form in three steps: every code point is
replaced by its full compatibility decomposition, runs of marks are sorted by combining
class, and each mark or vowel is joined to the starter before it when the two compose and no
mark of equal or higher class stands between them. Hangul syllables are taken apart and put
together by arithmetic.
-/

namespace CallBindings.Unicode

/-- The canonical combining class; zero for starters. -/
def combiningClass (n : Nat) : Nat :=
  match combiningClasses.find? fun r => r.1 ≤ n && n ≤ r.2.1 with
  | some r => r.2.2
  | none => 0

/-- The parts of a Hangul syllable: leading consonant, vowel, and a trailing consonant if it
has one. -/
def hangulParts (n : Nat) : List Nat :=
  let i := n - 0xAC00
  let head := [0x1100 + i / 588, 0x1161 + i % 588 / 28]
  if i % 28 = 0 then head else head ++ [0x11A7 + i % 28]

/-- The full compatibility decomposition of one code point. -/
def decompose (n : Nat) : List Nat :=
  if n < 0xA0 then [n]
  else if 0xAC00 ≤ n && n ≤ 0xD7A3 then hangulParts n
  else match decompositions.find? (·.1 == n) with
    | some (_, parts) => parts
    | none => [n]

/-- Puts a mark of class `k` in front of a list of classed code points, behind every mark of
a lower class up to the next starter. -/
def insertMark (k n : Nat) : List (Nat × Nat) → List (Nat × Nat)
  | [] => [(k, n)]
  | (k', n') :: rest =>
    if k' ≠ 0 && k' < k then (k', n') :: insertMark k n rest else (k, n) :: (k', n') :: rest

/-- Sorts each run of marks by combining class; marks of one class keep their order. -/
def orderMarks : List (Nat × Nat) → List (Nat × Nat)
  | [] => []
  | (k, n) :: rest => if k = 0 then (k, n) :: orderMarks rest else insertMark k n (orderMarks rest)

/-- The composite of two neighbours, if they compose. -/
def compose? (a b : Nat) : Option Nat :=
  if 0x1100 ≤ a && a ≤ 0x1112 && 0x1161 ≤ b && b ≤ 0x1175 then
    some (0xAC00 + ((a - 0x1100) * 21 + (b - 0x1161)) * 28)
  else if 0xAC00 ≤ a && a ≤ 0xD7A3 && (a - 0xAC00) % 28 = 0 && 0x11A8 ≤ b && b ≤ 0x11C2 then
    some (a + (b - 0x11A7))
  else (compositions.find? fun r => r.1 == a && r.2.1 == b).map (·.2.2)

/-- Composes a classed list behind the starter `base`. `kept` holds the marks that stay
between the starter and the rest, latest first, and `high` is the class of the latest. -/
def composeAfter (base : Nat) (kept : List Nat) (high : Nat) : List (Nat × Nat) → List Nat
  | [] => base :: kept.reverse
  | (k, n) :: rest =>
    match (if kept.isEmpty || high < k then compose? base n else none) with
    | some joined => composeAfter joined kept high rest
    | none =>
      if k = 0 then base :: kept.reverse ++ composeAfter n [] 0 rest
      else composeAfter base (n :: kept) k rest

/-- Composes a classed list; marks before the first starter stay as they are. -/
def composeAll : List (Nat × Nat) → List Nat
  | [] => []
  | (k, n) :: rest => if k = 0 then composeAfter n [] 0 rest else n :: composeAll rest

/-- The compatibility composed form of a list of code points. -/
def normalForm (ns : List Nat) : List Nat :=
  composeAll (orderMarks ((ns.flatMap decompose).map fun n => (combiningClass n, n)))

end CallBindings.Unicode

namespace CallBindings

/-- The compatibility composed form (NFKC) of a text. -/
def Text.normalize (t : Text) : Text :=
  if t.all (·.val < 0xA0) then t
  else (Unicode.normalForm (t.map (·.val))).map CodePoint.ofNat

end CallBindings
