import CallBindings.Files.Path
import CallBindings.Json.Basic

set_option autoImplicit false

/-! # File trees

A file tree is a file with its bytes or a directory of named trees. A place in it is the list
of names that leads there. There are no links, so every place is reached by one list of names.
-/

namespace CallBindings

/-- A file, or a directory with its entries. -/
inductive FileTree where
  | file (content : Bytes)
  | directory (entries : List (Text × FileTree))

namespace FileTree

instance : Inhabited FileTree := ⟨.directory []⟩

/-- What stands at a place. -/
def get? : Place → FileTree → Option FileTree
  | [], t => some t
  | _ :: _, .file _ => none
  | name :: rest, .directory entries =>
    match lookup? name entries with
    | some t => get? rest t
    | none => none

/-- How many of the names that lead to a place, from the first on, lead to something. -/
def known : Place → FileTree → Nat
  | [], _ => 0
  | _ :: _, .file _ => 0
  | name :: rest, .directory entries =>
    match lookup? name entries with
    | some t => known rest t + 1
    | none => 0

/-- The bytes of the file at a place. -/
def file? (place : Place) (t : FileTree) : Option Bytes :=
  match t.get? place with
  | some (.file content) => some content
  | _ => none

/-- Whether a directory stands at a place. -/
def hasDirectory (place : Place) (t : FileTree) : Bool :=
  match t.get? place with
  | some (.directory _) => true
  | _ => false

/-- Puts a tree at a place whose directory exists; elsewhere nothing changes. -/
def put : Place → FileTree → (new : FileTree) → FileTree
  | [], _, new => new
  | _ :: _, .file content, _ => .file content
  | [name], .directory entries, new => .directory (assign name new entries)
  | name :: rest, .directory entries, new =>
    match lookup? name entries with
    | some t => .directory (assign name (put rest t new) entries)
    | none => .directory entries

/-- Removes what stands at a place other than the root. -/
def erase : Place → FileTree → FileTree
  | [], t => t
  | _ :: _, .file content => .file content
  | [name], .directory entries => .directory (entries.filter fun e => e.1 ≠ name)
  | name :: rest, .directory entries =>
    match lookup? name entries with
    | some t => .directory (assign name (erase rest t) entries)
    | none => .directory entries

mutual

/-- The files of a tree that stands at `place`, each with its own place. -/
def filesFrom (place : Place) : FileTree → List (Place × Bytes)
  | .file content => [(place, content)]
  | .directory entries => filesFromEntries place entries

/-- The files of the entries of the directory at `place`. -/
def filesFromEntries (place : Place) : List (Text × FileTree) → List (Place × Bytes)
  | [] => []
  | (name, t) :: rest => filesFrom (place ++ [name]) t ++ filesFromEntries place rest

end

mutual

/-- The places below `place` that can be reached without passing a hidden name. -/
def visibleFrom (place : Place) : FileTree → List Place
  | .file _ => []
  | .directory entries => visibleFromEntries place entries

/-- The visible places among and below the entries of the directory at `place`. -/
def visibleFromEntries (place : Place) : List (Text × FileTree) → List Place
  | [] => []
  | (name, t) :: rest =>
    (if Path.isHidden name then [] else (place ++ [name]) :: visibleFrom (place ++ [name]) t) ++
      visibleFromEntries place rest

end

end FileTree

end CallBindings
