import CallBindings.Text.Shown
import CallBindings.Text.Utf8

set_option autoImplicit false

/-! # Faults of files

An operation on files fails because of what stands at a path, because a device fails, or
because the path is no path at all: it holds a null byte, cannot be encoded or has too many
parts. The first two are failures of the system, the last is a fault of the value given as a
path or as content.
-/

namespace CallBindings

/-- Why the system refuses an operation on a path. -/
inductive PathFault where
  | notFound | busy | alreadyExists | notDirectory | isDirectory | nameTooLong
deriving DecidableEq

namespace PathFault

/-- The number of a fault in messages. -/
def number : PathFault → Nat
  | .notFound => 2
  | .busy => 16
  | .alreadyExists => 17
  | .notDirectory => 20
  | .isDirectory => 21
  | .nameTooLong => 36

/-- The wording of a fault. -/
def wording : PathFault → Text
  | .notFound => "No such file or directory"
  | .busy => "Device or resource busy"
  | .alreadyExists => "File exists"
  | .notDirectory => "Not a directory"
  | .isDirectory => "Is a directory"
  | .nameTooLong => "File name too long"

end PathFault

/-- Why an operation on files fails. -/
inductive FileError where
  /-- What stands at the path, or at the target it is moved to, is in the way. -/
  | path (fault : PathFault) (path : Text) (target : Option Text)
  /-- The device fails with a message. -/
  | device (message : Text)
  /-- The path holds a null byte. -/
  | nullByte
  /-- The path or the content cannot be encoded. -/
  | unencodable (e : EncodeError)
  /-- The path or the pattern has more parts than can be followed one by one. -/
  | tooManyParts

namespace FileError

/-- The wording of an error. -/
def message : FileError → Text
  | .path fault p target =>
    "[Errno " ++ Text.ofNat fault.number ++ "] " ++ fault.wording ++ ": " ++ p.shown ++
      (match target with
       | none => []
       | some q => " -> " ++ q.shown)
  | .device message => message
  | .nullByte => "embedded null byte"
  | .unencodable e => e.message
  | .tooManyParts => "maximum recursion depth exceeded"

/-- Whether the system failed, and not the value given to it. -/
def isSystem : FileError → Bool
  | .path .. => true
  | .device _ => true
  | .nullByte => false
  | .unencodable _ => false
  | .tooManyParts => false

end FileError

end CallBindings
