import CallBindings.CommandLine.Command
import Std.Time

set_option autoImplicit false

/-! # The program

The program takes from the disk what the command may look at: the way to the current directory,
the configuration file, everything below the start of the search for contracts, and what stands
where the module and the log go. The command itself works on this picture of the disk. Files
that it has changed are then written, each as a whole, and what it says is printed.
-/

namespace CallBindings.Program

/-- What stands at an absolute path on the disk. -/
def entryAt (p : Text) : IO.FS.DirEntry := ⟨⟨"/"⟩, p.toStr⟩

/-- The bytes of a file on the disk. -/
def contentOf (e : IO.FS.DirEntry) : IO Bytes := do
  let bytes ← IO.FS.readBinFile e.path
  return bytes.toList

/-- Everything below an entry of the disk. -/
partial def treeOf (e : IO.FS.DirEntry) : IO FileTree := do
  if ← e.path.isDir then
    let entries ← e.path.readDir
    let trees ← entries.toList.mapM fun sub => do
      return (Text.ofString sub.fileName, ← treeOf sub)
    return .directory trees
  else return .file (← contentOf e)

/-- Adds the directories on the way to a path, and the file there. -/
def addPath (files : Files) (p : Text) : IO Files := do
  let names := Path.names (files.absolute p)
  let mut files := files
  for depth in List.range names.length do
    let place := names.take (depth + 1)
    let e := entryAt (Path.ofPlace place)
    if !(← e.path.pathExists) then return files
    if ← e.path.isDir then
      if !files.root.hasDirectory place then
        files := { files with root := files.root.put place (.directory []) }
    else
      files := { files with root := files.root.put place (.file (← contentOf e)) }
  return files

/-- Adds everything below a path. -/
def addTree (files : Files) (p : Text) : IO Files := do
  let files ← addPath files p
  let place := Path.names (files.absolute p)
  if files.root.hasDirectory place then
    return { files with root := files.root.put place (← treeOf (entryAt (Path.ofPlace place))) }
  else return files

/-- Adds everything that the path of a directory leads past, and the directory itself. -/
def addWay (files : Files) (p : Text) : IO Files :=
  let names := Path.names p
  (List.range names.length).foldlM
    (fun files depth => addPath files (Path.ofPlace (names.take (depth + 1)))) files

/-- Adds what a search may come by: the way to its start, and everything below the directory to
which its steps upwards lead from there. -/
def addSearch (files : Files) (settings : Settings) : IO Files := do
  let (start, segments) := Search.plan (Search.written files settings.inputPath settings.pattern)
  let files ← addWay files start
  if segments.isEmpty then return files
  else
    let upwards := segments.countP fun
      | .name t => t = Text.ofString ".."
      | _ => false
    let place := Path.names (files.absolute start)
    addTree files (Path.ofPlace (place.take (place.length - upwards)))

/-- The part of the disk that a command line is about. -/
def survey (around : Surroundings) (words : List Text) : IO Files := do
  let files ← addPath around.files around.files.currentPath
  match Invocation.read (CommandOption.all around.registry) words with
  | .run a =>
    let files ← addPath files (Settings.configPath files.currentPath a.configPath.value?)
    match Command.layers { around with files } a with
    | .error _ => return files
    | .ok (members, _) =>
      match Settings.validate .lenient around.registry files.currentPath (.obj members) with
      | .error _ => return files
      | .ok (settings, _) =>
        let files ← addSearch files settings
        let files ← addPath files settings.inputPath
        let files ← addPath files settings.outputPath
        if settings.logFile.isEmpty then return files
        else
          let backups : List Text := [[], ".1", ".2"]
          backups.foldlM (fun files number => addPath files (settings.logFile ++ number)) files
  | _ => return files

/-- Writes a file as a whole, or removes it. -/
def store (p : Text) (content : Option Bytes) : IO Unit := do
  let e := entryAt p
  match content with
  | none => IO.FS.removeFile e.path
  | some bytes =>
    IO.FS.createDirAll (entryAt (Path.parent p)).path
    let unfinished := entryAt (p ++ ".unfinished")
    IO.FS.writeBinFile unfinished.path ⟨bytes.toArray⟩
    IO.FS.rename unfinished.path e.path

/-- Writes the files that a command has changed. -/
def storeChanges (old new : Files) : IO Unit :=
  (Files.changes { old with current := [] } { new with current := [] }).forM fun c =>
    store (Path.ofPlace (Path.names c.1)) c.2

/-- A point in time, with its offset from universal time. -/
def timestampOf (t : Std.Time.PlainDateTime) (offset : Option Int) : Timestamp where
  year := t.date.year.toInt.toNat
  month := t.date.month.toNat
  day := t.date.day.toNat
  hour := t.time.hour.toNat
  minute := t.time.minute.toNat
  second := t.time.second.toNat
  microsecond := t.time.nanosecond.toNat / 1000
  offset := offset

/-- The surroundings of a command started now, without any files yet. -/
def surroundings : IO Surroundings := do
  let current ← IO.currentDir
  let now ← Std.Time.Timestamp.now
  let clock ← Std.Time.PlainDateTime.now
  return {
    registry := .builtin
    files := ⟨.directory [], Path.names (Text.ofString current.toString)⟩
    now := timestampOf (Std.Time.PlainDateTime.ofWallTime (Std.Time.WallTime.ofTimestamp now .zero))
      (some 0)
    clock := timestampOf clock none
    elapsed := .null
    interrupted := false }

/-- A span of nanoseconds in seconds, to four places. -/
def seconds (nanoseconds : Nat) : Json :=
  .float (Binary64.ofDecimal false ((nanoseconds + 50000) / 100000) (-4))

end CallBindings.Program

open CallBindings CallBindings.Program in
/-- Runs the command with the words of the command line. -/
def main (words : List String) : IO UInt32 := do
  let words := words.map Text.ofString
  let around ← surroundings
  let started ← IO.monoNanosNow
  let around := { around with files := ← survey around words }
  let _ ← IO.lazyPure fun _ => Command.run around words
  let around := { around with elapsed := seconds ((← IO.monoNanosNow) - started) }
  match Command.run around words with
  | .error e =>
    IO.eprintln e.message.toStr
    return 1
  | .ok result =>
    let session := result.session
    storeChanges around.files session.streams.files
    IO.print session.output.toStr
    IO.eprint session.streams.console.toStr
    IO.eprint session.streams.errors.toStr
    return UInt32.ofNat result.code
