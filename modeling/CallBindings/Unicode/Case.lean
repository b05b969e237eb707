import CallBindings.Unicode.CaseTable

set_option autoImplicit false

/-! # Upper and lower case

Upper case maps each code point on its own, to one or several code points. Lower case does
so too with one exception: a capital sigma at the end of a word becomes the final form. It
ends a word when a cased code point precedes it and none follows, case-ignorable ones being
passed over on both sides.
-/

namespace CallBindings

/-- The upper case of one code point. -/
def CodePoint.upper (c : CodePoint) : Text :=
  match Unicode.upperSequences.find? (·.1 == c.val) with
  | some (_, ns) => ns.map CodePoint.ofNat
  | none =>
    match Unicode.Run.applyFirst? Unicode.upperRuns c.val with
    | some n => [CodePoint.ofNat n]
    | none => [c]

/-- The text in upper case. -/
def Text.upper (t : Text) : Text := t.flatMap CodePoint.upper

/-- The lower case of one code point, away from the end of a word. -/
def CodePoint.lower (c : CodePoint) : Text :=
  if c.val = 0x130 then [CodePoint.ofNat 0x69, CodePoint.ofNat 0x307]
  else match Unicode.Run.applyFirst? Unicode.lowerRuns c.val with
    | some n => [CodePoint.ofNat n]
    | none => [c]

/-- Passed over when looking for a cased neighbour. -/
def CodePoint.isCaseIgnorable (c : CodePoint) : Bool :=
  Unicode.inRanges Unicode.caseIgnorable c.val

/-- A code point that has a case. -/
def CodePoint.isCased (c : CodePoint) : Bool := Unicode.inRanges Unicode.cased c.val

/-- Whether the first code point that is not case-ignorable has a case. -/
def Text.meetsCased (t : Text) : Bool :=
  match t.dropWhile CodePoint.isCaseIgnorable with
  | [] => false
  | c :: _ => c.isCased

/-- The lower case of `t`, where `before` holds what precedes it, nearest first. -/
def Text.lowerAfter (before : Text) : Text → Text
  | [] => []
  | c :: t =>
    (if c.val = 0x3A3 then
      [CodePoint.ofNat (if meetsCased before && !meetsCased t then 0x3C2 else 0x3C3)]
    else c.lower) ++ lowerAfter (c :: before) t

/-- The text in lower case. -/
def Text.lower (t : Text) : Text := lowerAfter [] t

end CallBindings
