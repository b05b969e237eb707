import CallBindings.Files.Store

set_option autoImplicit false

/-! # Writing a file as a whole

A file is written under a temporary name beside its target, which it then replaces. Whoever
reads the target sees the old content or the new, and a failure of any step leaves the old one;
the temporary file is removed. The directory of the target is made if it is missing, and stays
even if the write then fails.

Each step can fail for what stands in the way. A device may also fail at any step, for reasons
that do not show in the file tree.
-/

namespace CallBindings

/-- The messages with which a device fails at the steps of a write, if it does. On the way to the
directory of the target it may fail behind any number of directories. -/
structure DeviceFailures where
  parent : Option (Nat × Text) := none
  temporary : Option Text := none
  content : Option Text := none
  replacement : Option Text := none

namespace AtomicWrite

/-- The temporary name with number `n`. -/
def temporaryName (n : Nat) : Text := ".contractbind-" ++ Text.ofNatPadded 8 n ++ ".tmp"

/-- The first of the temporary names from number `n` on, at most `fuel` of them, that no entry
has. -/
def unusedName (entries : List (Text × FileTree)) : (fuel n : Nat) → Text
  | 0, n => temporaryName n
  | fuel + 1, n =>
    if hasKey (temporaryName n) entries then unusedName entries fuel (n + 1) else temporaryName n

/-- A temporary name for a directory: among one more names than there are entries, one is
unused. -/
def freshName (entries : List (Text × FileTree)) : Text :=
  unusedName entries (entries.length + 1) 0

/-- A device failure as an error. -/
def failing (message : Option Text) : Except FileError Unit :=
  match message with
  | some m => .error (.device m)
  | none => .ok ()

/-- The place for a temporary file in the directory at a path. -/
def temporaryPlace (fs : Files) (directory : Text) : Except FileError Place := do
  Files.check directory
  let refuse := fun fault : PathFault =>
    Except.error (FileError.path fault (Path.join directory (temporaryName 0)) none)
  if Files.pathLimit ≤ Files.size (Path.join directory (temporaryName 0)) then
    refuse .nameTooLong
  else match fs.locate directory with
    | .error fault => refuse fault
    | .ok place =>
      match fs.root.get? place with
      | some (.directory entries) => .ok (place ++ [freshName entries])
      | _ => refuse .notDirectory

/-- The path of a temporary file beside the path `p`. -/
def temporaryPath (fs : Files) (source : Place) (p : Text) : Text :=
  Path.join (fs.parentOf p) (source.getLastD [])

/-- Moves the temporary file at `source` to the path `p` beside it. -/
def replace (fs : Files) (source : Place) (p : Text) : Except FileError Files := do
  Files.check p
  match fs.target p with
  | .error fault => .error (.path fault (temporaryPath fs source p) (some p))
  | .ok place =>
    match fs.root.file? source with
    | some content =>
      .ok { fs with root := (fs.root.erase source).put place (.file content) }
    | none => .error (.path .notFound (temporaryPath fs source p) (some p))

/-- Fills the temporary file and moves it to its target. -/
def complete (fs : Files) (failures : DeviceFailures) (source : Place) (p text : Text) :
    Except FileError Files := do
  match text.toUtf8 with
  | .error e => .error (.unencodable e)
  | .ok content =>
    failing failures.content
    let filled := { fs with root := fs.root.put source (.file content) }
    failing failures.replacement
    replace filled source p

/-- Writes a text to the file at a path whose directory is there. -/
def writeBeside (fs : Files) (failures : DeviceFailures) (p text : Text) :
    Files × Except FileError Unit :=
  match (do failing failures.temporary; temporaryPlace fs (fs.parentOf p)) with
  | .error e => (fs, .error e)
  | .ok source =>
    let created := { fs with root := fs.root.put source (.file []) }
    match complete created failures source p text with
    | .ok written => (written, .ok ())
    | .error e => ({ created with root := created.root.erase source }, .error e)

/-- Makes the directory of a path, or the first of those on the way to it until a device fails. -/
def prepare (fs : Files) (failures : DeviceFailures) (p : Text) : Files × Except FileError Unit :=
  match failures.parent with
  | some (n, m) =>
    ((fs.makeMissing ((Path.ancestry (fs.parentOf p)).take n)).1, .error (.device m))
  | none => fs.ensureParent p

/-- Writes a text to the file at a path: the files afterwards, and the error if there is one. -/
def write (fs : Files) (failures : DeviceFailures) (p text : Text) :
    Files × Except FileError Unit :=
  match prepare fs failures p with
  | (ready, .error e) => (ready, .error e)
  | (ready, .ok ()) => writeBeside ready failures p text

end AtomicWrite

end CallBindings
