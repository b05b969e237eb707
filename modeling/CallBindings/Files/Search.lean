import CallBindings.Files.Store
import CallBindings.Files.Wildcard
import CallBindings.Logging.Record

set_option autoImplicit false

/-! # Searching for files

The directory of a search is written in front of its pattern, and both are read together. Names
with wildcards match entries of a directory, and `**` stands for the directory itself and
everything below. Names that begin with a dot are found only by segments that begin with a dot.

A search without wildcards finds what stands at the path as it is written. Any other starts in
the directory whose path stands in front of the first segment with wildcards, and follows the
segments from there on. The path of what it finds is put together on the way, and what it finds
is a file only by this path: one that is too long leads nowhere, even if a shorter path leads to
the same file. What is found is listed in the order of its normal paths, as often as there are
ways to it.
-/

namespace CallBindings

/-- A segment of a search pattern. -/
inductive Segment where
  | name (t : Text)
  | anyDepth
  | pattern (hidden : Bool) (ws : List Wildcard)

/-- A way that a search has found: the path put together on it, and the place it leads to. -/
structure Way where
  path : Text
  place : Place

/-- The way that goes on along a relative path, which leads to `place`. -/
def Way.onTo (w : Way) (p : Text) (place : Place) : Way := ⟨Path.join w.path p, place⟩

namespace Segment

/-- The segment a text denotes. -/
def ofText (t : Text) : Segment :=
  if t = "**" then .anyDepth
  else if t.any Wildcard.isSpecial then .pattern (Path.isHidden t) (Wildcard.read t)
  else .name t

/-- The ways on which a segment leads further. -/
def reach (root : FileTree) (w : Way) : Segment → List Way
  | .name t =>
    match Files.step root w.place t with
    | .ok next => [w.onTo t next]
    | .error _ => []
  | .anyDepth =>
    match root.get? w.place with
    | some (.directory entries) =>
      w.onTo [] w.place :: (FileTree.visibleFromEntries [] entries).map fun below =>
        w.onTo (Text.join "/" below) (w.place ++ below)
    | _ => []
  | .pattern hidden ws =>
    match root.get? w.place with
    | some (.directory entries) =>
      (entries.filter fun e => (hidden || !Path.isHidden e.1) && Wildcard.matchesAll ws e.1).map
        fun e => w.onTo e.1 (w.place ++ [e.1])
    | _ => []

end Segment

namespace Search

/-- The greatest number of segments that are followed. -/
def segmentLimit : Nat := 988

/-- The ways on which segments lead further, the first segment first. -/
def expand (root : FileTree) : List Segment → Way → List Way
  | [], w => [w]
  | s :: rest, w => (s.reach root w).flatMap (expand root rest)

/-- The text in which directory and pattern of a search are written together. -/
def written (fs : Files) (directory pattern : Text) : Text :=
  Path.join (fs.absolute directory) pattern

/-- A text cut in front of its first segment with wildcards, if there is one. -/
def cut? (t : Text) : Option (Text × Text) :=
  let plain := t.takeWhile fun c => !Wildcard.isSpecial c
  if plain.length = t.length then none
  else
    let start := (plain.reverse.dropWhile (· ≠ CodePoint.ofChar '/')).reverse
    some (start, t.drop start.length)

/-- The path of the directory in which a search starts, and the segments that it follows from
there on, none if there are no wildcards. -/
def plan (t : Text) : Text × List Segment :=
  match cut? t with
  | none => (t, [])
  | some (start, rest) => (Path.parent start, (Path.steps rest).map Segment.ofText)

/-- The ways to files that are found from a directory by segments with wildcards. -/
def ways (fs : Files) (start : Text) (segments : List Segment) : List Way :=
  match fs.locate start with
  | .error _ => []
  | .ok place => expand fs.root segments ⟨start, place⟩

/-- Whether the path of a way is that of a file. -/
def leadsToFile (fs : Files) (w : Way) : Bool :=
  (Files.fits w.path).isOk && (fs.root.file? w.place).isSome

/-- The paths of the files that a search for a written text finds. -/
def findWritten (fs : Files) (t : Text) : Except FileError (List Text) :=
  match plan t with
  | (start, []) => .ok (if fs.hasFile start then [Path.normalize start] else [])
  | (start, segments) =>
    if segmentLimit < segments.length then .error .tooManyParts
    else
      match Files.check start with
      | .error e => .error e
      | .ok _ =>
        let found := (ways fs start segments).filter (leadsToFile fs)
        .ok (Text.sort (found.map fun w => Path.normalize w.path))

/-- The paths of the files that a search finds. -/
def find (fs : Files) (directory pattern : Text) : Except FileError (List Text) :=
  findWritten fs (written fs directory pattern)

/-- The record of a search that found `found`. -/
def record (fs : Files) (directory pattern : Text) (found : List Text) : LogRecord :=
  ⟨.debug, "contractbind.infra.fs",
    "Found " ++ Text.ofNat found.length ++ " contract file(s) under " ++ fs.absolute directory ++
      " (" ++ pattern ++ ")"⟩

end Search

/-- The pattern by which contract files are found where no other is given. -/
def defaultPattern : Text := "**/*.contract.json"

end CallBindings
