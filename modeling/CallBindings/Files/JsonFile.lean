import CallBindings.Files.Store
import CallBindings.Json.Bytes

set_option autoImplicit false

/-! # JSON files

A JSON file is read in one go: its bytes must be there, and they must be the UTF-8 text of a
value. Whoever reads a file can mend every failure but one. Where values are nested too deeply
the reading is given up, and with it all that was to be done with the file.
-/

namespace CallBindings

/-- Why a file gives no JSON value. -/
inductive JsonFileError where
  | file (e : FileError)
  | content (e : BytesError)

namespace JsonFileError

/-- The wording of the error. -/
def message : JsonFileError → Text
  | .file e => e.message
  | .content e => e.message

/-- Whether the reading was given up. -/
def isGivenUp : JsonFileError → Bool
  | .file _ => false
  | .content e => e.isGivenUp

end JsonFileError

/-- The JSON value in the file at a path. -/
def Files.readJson (fs : Files) (p : Text) : Except JsonFileError Json :=
  match fs.read p with
  | .error e => .error (.file e)
  | .ok bytes =>
    match Json.readUtf8 bytes with
    | .error e => .error (.content e)
    | .ok j => .ok j

end CallBindings
