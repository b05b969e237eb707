import CallBindings.Files.Fault
import CallBindings.Files.Tree

set_option autoImplicit false

/-! # Files seen from a current directory

A program sees a file tree from its current directory and names what it means by paths.
Following a path, every name but the last must be that of a directory, and `..` leads to the
directory above. A name has at most 255 bytes and a path fewer than 4096.
-/

namespace CallBindings

/-- A file tree and the place of the current directory in it. -/
structure Files where
  root : FileTree
  current : Place

namespace Files

/-- The greatest number of bytes in a name. -/
def nameLimit : Nat := 255

/-- The number of bytes that a path stays below. -/
def pathLimit : Nat := 4096

/-- The greatest number of directories that are made one below the other in one go. -/
def chainLimit : Nat := 990

/-- Whether a code point of a path stands for a single byte that is no text. -/
def isByte (c : CodePoint) : Bool := 0xDC80 ≤ c.val && c.val ≤ 0xDCFF

/-- The bytes by which the system knows a path or a name. -/
def encode (p : Text) : Bytes :=
  p.flatMap fun c => if isByte c then [UInt8.ofNat (c.val % 0x100)] else Utf8.encodeCodePoint c

/-- The number of bytes of a path or a name. -/
def size (p : Text) : Nat := (encode p).length

/-- The path of the current directory. -/
def currentPath (fs : Files) : Text := Path.ofPlace fs.current

/-- The absolute form of a path. -/
def absolute (fs : Files) (p : Text) : Text := Path.absolute fs.currentPath p

/-- The first surrogate of a path that stands for no byte, with those directly after it. -/
def unencodable? (p : Text) : Option EncodeError :=
  match p.dropWhile fun c => !c.isSurrogate || isByte c with
  | [] => none
  | c :: rest =>
    some ⟨p.length - (rest.length + 1), ((c :: rest).takeWhile CodePoint.isSurrogate).length, c⟩

/-- Whether a text can be given to the system as a path. -/
def check (p : Text) : Except FileError Unit :=
  match unencodable? p with
  | some e => .error (.unencodable e)
  | none => if p.any fun c => c.val = 0 then .error .nullByte else .ok ()

/-- Follows one name from a place. -/
def step (root : FileTree) (place : Place) (name : Text) : Except PathFault Place :=
  match root.get? place with
  | none => .error .notFound
  | some (.file _) => .error .notDirectory
  | some (.directory entries) =>
    if name = "." then .ok place
    else if name = ".." then .ok place.dropLast
    else if nameLimit < size name then .error .nameTooLong
    else if hasKey name entries then .ok (place ++ [name])
    else .error .notFound

/-- The place where a path begins. -/
def start (fs : Files) (p : Text) : Place := if Path.isAbsolute p then [] else fs.current

/-- Whether a path as a whole can be followed. -/
def fits (p : Text) : Except PathFault Unit :=
  if p.isEmpty then .error .notFound
  else if pathLimit ≤ size p then .error .nameTooLong
  else .ok ()

/-- The place a path leads to. -/
def locate (fs : Files) (p : Text) : Except PathFault Place := do
  fits p
  (Path.steps p).foldlM (step fs.root) (fs.start p)

/-- What stands at a path. -/
def node? (fs : Files) (p : Text) : Option FileTree :=
  match check p, fs.locate p with
  | .ok _, .ok place => fs.root.get? place
  | _, _ => none

/-- Whether anything stands at a path. -/
def hasNode (fs : Files) (p : Text) : Bool := (fs.node? p).isSome

/-- Whether a directory stands at a path. -/
def hasDirectory (fs : Files) (p : Text) : Bool :=
  match fs.node? p with
  | some (.directory _) => true
  | _ => false

/-- Whether a file stands at a path. -/
def hasFile (fs : Files) (p : Text) : Bool :=
  match fs.node? p with
  | some (.file _) => true
  | _ => false

/-- The bytes of the file at a path. -/
def read (fs : Files) (p : Text) : Except FileError Bytes := do
  check p
  match fs.locate p with
  | .error fault => .error (.path fault p none)
  | .ok place =>
    match fs.root.get? place with
    | some (.file content) => .ok content
    | some (.directory _) => .error (.path .isDirectory p none)
    | none => .error (.path .notFound p none)

/-- Makes the directory at a normal absolute path, in the directory above it. -/
def makeDirectory (fs : Files) (p : Text) : Except FileError Files := do
  check p
  let place := Path.names p
  let name := place.getLastD []
  let refuse := fun fault : PathFault => Except.error (FileError.path fault p none)
  if pathLimit ≤ size p then refuse .nameTooLong
  else match fs.root.get? place.dropLast with
    | none => refuse .notFound
    | some (.file _) => refuse .notDirectory
    | some (.directory entries) =>
      if nameLimit < size name then refuse .nameTooLong
      else if hasKey name entries then refuse .alreadyExists
      else .ok { fs with root := fs.root.put place (.directory []) }

/-- Makes directories, each below the one before, where nothing stands yet; at the path of the
last there must be a directory. Those made before an error stay. -/
def makeMissing (fs : Files) : List Text → Files × Except FileError Unit
  | [] => (fs, .ok ())
  | p :: rest =>
    let stands := if rest.isEmpty then fs.hasDirectory p else fs.hasNode p
    if stands then makeMissing fs rest
    else match fs.makeDirectory p with
      | .error e => (fs, .error e)
      | .ok made => makeMissing made rest

/-- Makes the directory at a normal absolute path, and those above it. -/
def makeDirectories (fs : Files) (p : Text) : Files × Except FileError Unit :=
  let place := Path.names p
  if chainLimit < place.length - fs.root.known place then (fs, .error .tooManyParts)
  else fs.makeMissing (Path.ancestry p)

/-- The directory in which the file at a path lies, or would lie. -/
def parentOf (fs : Files) (p : Text) : Text := Path.parent (fs.absolute p)

/-- Makes the directory of a path unless something stands there. -/
def ensureParent (fs : Files) (p : Text) : Files × Except FileError Unit :=
  if fs.hasNode (fs.parentOf p) then (fs, .ok ()) else fs.makeDirectories (fs.parentOf p)

/-- The place that a file moved to the path `p` comes to: its directory must exist, and it must
not be a directory itself. -/
def target (fs : Files) (p : Text) : Except PathFault Place := do
  fits p
  match (Path.names p).reverse with
  | [] => .error .busy
  | name :: above =>
    let place ← above.reverse.foldlM (step fs.root) (fs.start p)
    if !fs.root.hasDirectory place then
      .error (if (fs.root.get? place).isSome then .notDirectory else .notFound)
    else if name = "." || name = ".." then .error .busy
    else if nameLimit < size name then .error .nameTooLong
    else if Text.endsWith p "/" then .error .notDirectory
    else if fs.root.hasDirectory (place ++ [name]) then .error .isDirectory
    else .ok (place ++ [name])

/-- The files below the current directory, by their paths from there. -/
def listing (fs : Files) : List (Text × Bytes) :=
  match fs.root.get? fs.current with
  | some t => (t.filesFrom []).map fun f => (Text.join "/" f.1, f.2)
  | none => []

/-- The files below the current directory that `new` has and `old` had otherwise or not at all,
and those that `new` lacks, in the order of their paths. -/
def changes (old new : Files) : List (Text × Option Bytes) :=
  let before := old.listing
  let after := new.listing
  let written := after.filterMap fun f =>
    if lookup? f.1 before = some f.2 then none else some (f.1, some f.2)
  let removed := before.filterMap fun f => if hasKey f.1 after then none else some (f.1, none)
  (written ++ removed).mergeSort fun a b => Text.le a.1 b.1

end Files

end CallBindings
