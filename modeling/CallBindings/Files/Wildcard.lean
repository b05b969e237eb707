import CallBindings.Text.Basic

set_option autoImplicit false

/-! # Wildcards

In the pattern of a name, `*` stands for any text, `?` for any code point, and brackets for one
code point out of a class: single code points and ranges, negated by `!` at the front. A
bracket directly after the opening one or after the `!` belongs to the class; an opening
bracket that is never closed stands for itself. There is no way to escape a code point other
than a class that holds only it.
-/

namespace CallBindings

/-- A member of a class: a code point, or all from one to another. -/
inductive ClassItem where
  | one (c : CodePoint)
  | span (first last : CodePoint)

namespace ClassItem

/-- Whether a code point is meant. -/
def holds (c : CodePoint) : ClassItem → Bool
  | .one d => c = d
  | .span first last => first.val ≤ c.val && c.val ≤ last.val

/-- Whether the item is a range that runs backwards. -/
def isBackward : ClassItem → Bool
  | .one _ => false
  | .span first last => last.val < first.val

/-- The items of a class, as written. -/
def read : Text → List ClassItem
  | a :: dash :: b :: rest =>
    if dash = '-' then .span a b :: read rest else .one a :: read (dash :: b :: rest)
  | a :: rest => .one a :: read rest
  | [] => []

end ClassItem

/-- A part of the pattern of a name. -/
inductive Wildcard where
  | exactly (c : CodePoint)
  | anyOne
  | anyText
  | oneOf (negated : Bool) (items : List ClassItem)

namespace Wildcard

/-- The code points that make a name pattern of a text. -/
def isSpecial (c : CodePoint) : Bool := c = '*' || c = '?' || c = '['

/-- The class written between brackets. Ranges that run backwards are struck out; should that
bring a `!` to the front, it negates the class. -/
def ofClass (negated : Bool) (written : Text) : Wildcard :=
  let items := ClassItem.read written
  let kept := items.filter fun i => !i.isBackward
  if negated || !(items.head?.any ClassItem.isBackward) then .oneOf negated kept
  else match kept with
    | .one c :: rest => if c = '!' then .oneOf true rest else .oneOf false kept
    | .span first last :: rest =>
      if first = '!' then .oneOf true (.one '-' :: .one last :: rest) else .oneOf false kept
    | [] => .oneOf false []

/-- The class after an opening bracket, and what follows its closing bracket. -/
def readClass? (t : Text) : Option (Wildcard × Text) :=
  let negated := t.head? = some (CodePoint.ofChar '!')
  match if negated then t.drop 1 else t with
  | [] => none
  | c :: rest =>
    match rest.dropWhile (· ≠ CodePoint.ofChar ']') with
    | [] => none
    | _ :: after => some (ofClass negated (c :: rest.takeWhile (· ≠ CodePoint.ofChar ']')), after)

/-- The pattern written in at most `fuel` parts. -/
def readParts : (fuel : Nat) → Text → List Wildcard
  | 0, _ => []
  | _, [] => []
  | fuel + 1, c :: t =>
    if c = '*' then .anyText :: readParts fuel t
    else if c = '?' then .anyOne :: readParts fuel t
    else if c = '[' then
      match readClass? t with
      | some (w, rest) => w :: readParts fuel rest
      | none => .exactly c :: readParts fuel t
    else .exactly c :: readParts fuel t

/-- The pattern a text denotes; no part is written with fewer than one code point. -/
def read (t : Text) : List Wildcard := readParts t.length t

/-- Whether a part other than `*` stands for a code point. -/
def accepts (c : CodePoint) : Wildcard → Bool
  | .exactly d => c = d
  | .anyOne => true
  | .anyText => false
  | .oneOf negated items => (items.any (·.holds c)) != negated

/-- For each tail of a text, from the whole text to the empty tail, whether it is all that a
part stands for followed by what the parts after it stand for; `rest` says this of those parts
and has one more entry than the text has code points. -/
def before (w : Wildcard) : (t : Text) → (rest : List Bool) → List Bool
  | c :: t, _ :: rest => (w.accepts c && rest.headD false) :: before w t rest
  | _, _ => [false]

/-- For each entry, whether it or one after it is true. -/
def someFrom : List Bool → List Bool
  | [] => []
  | b :: rest =>
    let later := someFrom rest
    (b || later.headD false) :: later

/-- For each tail of a text, from the whole text to the empty tail, whether a pattern matches
it. -/
def matchTails (t : Text) : List Wildcard → List Bool
  | [] => t.map (fun _ => false) ++ [true]
  | .anyText :: ws => someFrom (matchTails t ws)
  | w :: ws => before w t (matchTails t ws)

/-- Whether a pattern matches a whole name. -/
def matchesAll (ws : List Wildcard) (t : Text) : Bool := (matchTails t ws).headD false

end Wildcard

end CallBindings
