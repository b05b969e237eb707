import CallBindings.Json.Shown

set_option autoImplicit false

/-! # Errors of generation

Everything that can stop descriptors from becoming a module. A descriptor either holds a shape
of a kind outside the closed set of kinds, which points at a producer of another version, or
it is built wrongly, which is a fault of the data; the second carries the file it was read
from. The remaining errors concern contracts that are well built on their own.
-/

namespace CallBindings

/-- What is wrong with the structure of a descriptor. -/
inductive DescriptorFault where
  | shapeNotObject (kind : Json.Kind)
  | missingPart (owner part : Text)
  | partNotList (owner part : Text)
  | formatNotText
  | choicesNotList (owner : Text)
  | badChoice (value : Json) (owner : Text)
  | fieldNotObject (index : Nat)
  | fieldUnnamed (index : Nat)
  | fieldRepeated (name : Text)
  | badReference
  | contractNotObject (kind : Json.Kind)
  | needsText (part : Text)
  | badId (id : Text)
  | missingRequest (id : Text)
  | missingResponses (id : Text)
  | responseNotObject (index : Nat) (id : Text)
  | responseWithoutCode (index : Nat) (id : Text)
  | responseWithoutBody (code : Int) (id : Text)
  | repeatedSuccess (id : Text)

/-- The wording of a fault. -/
def DescriptorFault.message : DescriptorFault → Text
  | .shapeNotObject kind => "Model descriptor must be an object, received " ++ kind.name
  | .missingPart owner part => "'" ++ owner ++ "' model is missing '" ++ part ++ "'"
  | .partNotList owner part => "'" ++ part ++ "' of a '" ++ owner ++ "' model must be a list"
  | .formatNotText => "'format' of a string model must be a string"
  | .choicesNotList owner => "'enum' of a '" ++ owner ++ "' model must be a list"
  | .badChoice value owner => "Invalid literal " ++ value.shown ++ " in '" ++ owner ++ "' enum"
  | .fieldNotObject index =>
    "Field #" ++ Text.ofNat index ++ " of a dictionary model must be an object"
  | .fieldUnnamed index =>
    "Field #" ++ Text.ofNat index ++ " of a dictionary model has no string 'name'"
  | .fieldRepeated name => "Field '" ++ name ++ "' is declared twice"
  | .badReference => "'id' of a reference model must be a non-empty string"
  | .contractNotObject kind => "Contract descriptor must be an object, received " ++ kind.name
  | .needsText part => "Contract descriptor needs a non-empty string '" ++ part ++ "'"
  | .badId id => "Contract id '" ++ id ++ "' is not a valid identifier"
  | .missingRequest id => "Contract '" ++ id ++ "' is missing 'requestBody'"
  | .missingResponses id => "Contract '" ++ id ++ "' must declare a 'responses' list"
  | .responseNotObject index id =>
    "Response #" ++ Text.ofNat index ++ " of '" ++ id ++ "' must be an object"
  | .responseWithoutCode index id =>
    "Response #" ++ Text.ofNat index ++ " of '" ++ id ++ "' has no integer 'code'"
  | .responseWithoutBody code id =>
    "Response " ++ Text.ofInt code ++ " of '" ++ id ++ "' is missing 'body'"
  | .repeatedSuccess id =>
    "Contract '" ++ id ++ "' declares more than one response with code 200"

/-- Why no module is generated. -/
inductive GenerationError where
  | unsupportedVariant (tag : Text)
  | invalidDescriptor (fault : DescriptorFault) (source : Option Text)
  | missingSuccess (id : Text)
  | duplicateId (id : Text)
  | unknownTransport (name : Text)

/-- The wording of an error. A source in front of a fault is left out when it is empty. -/
def GenerationError.message : GenerationError → Text
  | .unsupportedVariant tag => "Unsupported model variant: '" ++ tag ++ "'"
  | .invalidDescriptor fault none => fault.message
  | .invalidDescriptor fault (some source) =>
    if source.isEmpty then fault.message else source ++ ": " ++ fault.message
  | .missingSuccess id => "Contract '" ++ id ++ "' declares no response with code 200"
  | .duplicateId id => "Contract id '" ++ id ++ "' is declared more than once"
  | .unknownTransport name => "Unknown transport: '" ++ name ++ "'"

end CallBindings
