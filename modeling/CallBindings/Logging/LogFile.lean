import CallBindings.Files.Store

set_option autoImplicit false

/-! # Rotating log files

Lines are added to a log file until it would grow too long, counting the bytes it has and the
code points of the line. It is then renamed by adding the number 1 to its name; older files
with numbers move up by one, and the oldest is lost. Without room for older files, or without
a limit, the file simply grows.
-/

namespace CallBindings

/-- A log file that is open: where it is, its limit if that is positive, and how many older
files are kept. -/
structure LogFile where
  place : Place
  maxBytes : Int
  backupCount : Int

namespace LogFile

/-- The place of the older file with number `i`. -/
def backup (l : LogFile) (i : Nat) : Place :=
  l.place.dropLast ++ [l.place.getLastD [] ++ "." ++ Text.ofNat i]

/-- Opens the log file at a path, which is made if it is missing. -/
def openAt (fs : Files) (p : Text) (maxBytes backupCount : Int) :
    Except FileError (Files × LogFile) := do
  let full := fs.absolute p
  Files.check full
  let l : LogFile := ⟨Path.names full, maxBytes, backupCount⟩
  match fs.target full with
  | .error .busy => .error (.path .isDirectory full none)
  | .error fault => .error (.path fault full none)
  | .ok place =>
    match fs.root.file? place with
    | some _ => .ok (fs, l)
    | none => .ok ({ fs with root := fs.root.put place (.file []) }, l)

/-- Moves what stands at a place to another, where it replaces a file. A directory there stays
and is in the way, which is the one case that fails. -/
def move (t : FileTree) (source target : Place) : FileTree × Bool :=
  match t.get? source with
  | none => (t, true)
  | some moved =>
    if t.hasDirectory target then (t, false) else ((t.erase source).put target moved, true)

/-- Moves the older files with numbers up to `n` up by one, the last first, until one fails. -/
def shift (l : LogFile) : (n : Nat) → FileTree → FileTree × Bool
  | 0, t => (t, true)
  | n + 1, t =>
    match move t (l.backup (n + 1)) (l.backup (n + 2)) with
    | (t, true) => shift l n t
    | (t, false) => (t, false)

/-- Starts the file anew and keeps the old one under a number; says whether that worked. -/
def rotate (l : LogFile) (t : FileTree) : FileTree × Bool :=
  if l.backupCount < 1 then (t, true)
  else match shift l (l.backupCount.toNat - 1) t with
    | (t, false) => (t, false)
    | (t, true) =>
      match move t l.place (l.backup 1) with
      | (t, true) => (t.put l.place (.file []), true)
      | (t, false) => (t, false)

/-- Whether the file has no room for a line. -/
def isFull (l : LogFile) (t : FileTree) (line : Text) : Bool :=
  0 < l.maxBytes && l.maxBytes ≤ ((t.file? l.place).getD []).length + line.length

/-- Adds a line. A line that cannot be encoded, or for which no room can be made, is lost. -/
def append (l : LogFile) (line : Text) (t : FileTree) : FileTree :=
  match if l.isFull t line then l.rotate t else (t, true) with
  | (t, false) => t
  | (t, true) =>
    match t.file? l.place, line.toUtf8 with
    | some content, .ok bytes => t.put l.place (.file (content ++ bytes))
    | _, _ => t

end LogFile

end CallBindings
