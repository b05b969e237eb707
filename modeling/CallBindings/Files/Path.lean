import CallBindings.Text.Utf8

set_option autoImplicit false

/-! # Paths

A path is a text in which slashes separate names. A path that begins with a slash is absolute,
any other is seen from the current directory. The normal form of a path has neither empty
names nor `.`, and `..` only where nothing is left to go up from.
-/

namespace CallBindings

/-- The names on the way from the root of a file tree to a place in it. -/
abbrev Place := List Text

namespace Path

/-- Whether a path begins at the root. -/
def isAbsolute (p : Text) : Bool := Text.startsWith p "/"

/-- The path `p` as seen from the directory `base`. -/
def join (base p : Text) : Text :=
  if isAbsolute p then p
  else if base.isEmpty || Text.endsWith base "/" then base ++ p
  else base ++ "/" ++ p

/-- The names in a path. -/
def names (p : Text) : List Text := (Text.splitAt '/' p).filter fun name => !name.isEmpty

/-- The names to be followed in order to reach what a path denotes. A slash at the end stands
for a step to the same place, which only a directory allows. -/
def steps (p : Text) : List Text :=
  names p ++ (if Text.endsWith p "/" then [Text.ofString "."] else [])

/-- The slashes that a normal path begins with: at most one, except that exactly two stay. -/
def root (p : Text) : Text :=
  if Text.startsWith p "//" && !Text.startsWith p "///" then "//"
  else if isAbsolute p then "/" else []

/-- Follows one name from the names of a normal path, which are given last name first. -/
def follow (absolute : Bool) (above : List Text) (name : Text) : List Text :=
  if name = "." then above
  else if name = ".." then
    match above with
    | [] => if absolute then [] else [name]
    | last :: rest => if last = ".." then name :: last :: rest else rest
  else name :: above

/-- The normal form of a path. -/
def normalize (p : Text) : Text :=
  let normal := root p ++ Text.join "/" ((names p).foldl (follow (isAbsolute p)) []).reverse
  if normal.isEmpty then "." else normal

/-- The normal absolute form of a path seen from the directory `current`. -/
def absolute (current p : Text) : Text := normalize (join current p)

/-- The paths on the way from the root to a normal absolute path, the path itself last. -/
def ancestry (p : Text) : List Text :=
  (List.range (names p).length).map fun i => root p ++ Text.join "/" ((names p).take (i + 1))

/-- The path of the directory that a path lies in. -/
def parent (p : Text) : Text :=
  let head := (p.reverse.dropWhile (· ≠ CodePoint.ofChar '/')).reverse
  if head.all (· = CodePoint.ofChar '/') then head
  else (head.reverse.dropWhile (· = CodePoint.ofChar '/')).reverse

/-- The absolute path of a place. -/
def ofPlace (place : Place) : Text := "/" ++ Text.join "/" place

/-- Whether a name is hidden from searches that do not ask for hidden names. -/
def isHidden (name : Text) : Bool := Text.startsWith name "."

end Path

end CallBindings
