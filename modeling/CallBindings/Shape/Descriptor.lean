import CallBindings.GenerationError
import CallBindings.Shape.Basic

set_option autoImplicit false

/-! # Shapes from descriptors

A descriptor is an object whose member `type` names the kind of shape; the other members it
needs depend on that kind, and all further members are ignored. The parts of a shape are read
in the order in which they are listed here, and the first fault found is the error.
-/

namespace CallBindings.Shape

/-- Whether a value can be a literal of a number shape. -/
def isNumberLiteral : Json → Bool
  | .int _ => true
  | .float _ => true
  | _ => false

/-- Whether a value can be a literal of a string shape. -/
def isStringLiteral : Json → Bool
  | .str _ => true
  | _ => false

/-- The enumeration of a number or string descriptor: absent or null, or a list of literals
that satisfy `allowed`. -/
def readChoices (allowed : Json → Bool) (owner : Text) (source : Option Text)
    (members : List (Text × Json)) : Except GenerationError (Option (List Json)) :=
  match lookup? "enum" members with
  | none | some .null => .ok none
  | some (.arr items) =>
    match items.find? fun j => !allowed j with
    | some bad => .error (.invalidDescriptor (.badChoice bad owner) source)
    | none => .ok (some items)
  | some _ => .error (.invalidDescriptor (.choicesNotList owner) source)

/-- The format of a string descriptor: absent or null, or a text. -/
def readFormat (source : Option Text) (members : List (Text × Json)) :
    Except GenerationError (Option Text) :=
  match lookup? "format" members with
  | none | some .null => .ok none
  | some (.str t) => .ok (some t)
  | some _ => .error (.invalidDescriptor .formatNotText source)

/-- The id of a reference descriptor. -/
def readReference (source : Option Text) (members : List (Text × Json)) :
    Except GenerationError Shape :=
  match lookup? "id" members with
  | none => .error (.invalidDescriptor (.missingPart "reference" "id") source)
  | some (.str (c :: id)) => .ok (.reference (c :: id))
  | some _ => .error (.invalidDescriptor .badReference source)

/-- The kind of a special descriptor. -/
def readSpecial (source : Option Text) (members : List (Text × Json)) :
    Except GenerationError Shape :=
  match lookup? "kind" members with
  | none => .error (.invalidDescriptor (.missingPart "special" "kind") source)
  | some (.str kind) =>
    if specialKinds.contains kind then .ok (.special kind)
    else .error (.unsupportedVariant ("special:" ++ kind))
  | some j => .error (.unsupportedVariant ("special:" ++ j.plain))

mutual

/-- The shape a descriptor describes. `source` names the file for faults of the data. -/
def ofJson (source : Option Text) : Json → Except GenerationError Shape
  | .obj members =>
    match lookup? "type" members with
    | some (.str tag) =>
      if tag = "boolean" then .ok .boolean
      else if tag = "number" then
        (readChoices isNumberLiteral "number" source members).map .number
      else if tag = "string" then do
        let choices ← readChoices isStringLiteral "string" source members
        let format ← readFormat source members
        .ok (.string choices format)
      else if tag = "array" then (ofPart source tag "element" members).map .array
      else if tag = "tuple" then (ofListPart source tag "elements" members).map .tuple
      else if tag = "dictionary" then (ofFieldsPart source members).map .dictionary
      else if tag = "map" then do
        let key ← ofPart source tag "key" members
        let value ← ofPart source tag "value" members
        .ok (.map key value)
      else if tag = "union" then (ofListPart source tag "variants" members).map .union
      else if tag = "reference" then readReference source members
      else if tag = "special" then readSpecial source members
      else .error (.unsupportedVariant tag)
    | some j => .error (.unsupportedVariant j.shown)
    | none => .error (.unsupportedVariant Json.null.shown)
  | j => .error (.invalidDescriptor (.shapeNotObject j.kind) source)

/-- The shape under the member `part` of a descriptor. -/
def ofPart (source : Option Text) (owner part : Text) :
    List (Text × Json) → Except GenerationError Shape
  | [] => .error (.invalidDescriptor (.missingPart owner part) source)
  | (k, v) :: rest => if k = part then ofJson source v else ofPart source owner part rest

/-- The shapes listed under the member `part` of a descriptor. -/
def ofListPart (source : Option Text) (owner part : Text) :
    List (Text × Json) → Except GenerationError (List Shape)
  | [] => .error (.invalidDescriptor (.missingPart owner part) source)
  | (k, v) :: rest =>
    if k = part then
      match v with
      | .arr items => ofItems source items
      | _ => .error (.invalidDescriptor (.partNotList owner part) source)
    else ofListPart source owner part rest

/-- The shapes of a list of descriptors. -/
def ofItems (source : Option Text) : List Json → Except GenerationError (List Shape)
  | [] => .ok []
  | j :: rest => do
    let s ← ofJson source j
    let ss ← ofItems source rest
    .ok (s :: ss)

/-- The fields listed under the member `fields` of a descriptor. -/
def ofFieldsPart (source : Option Text) :
    List (Text × Json) → Except GenerationError (List (Field Shape))
  | [] => .error (.invalidDescriptor (.missingPart "dictionary" "fields") source)
  | (k, v) :: rest =>
    if k = "fields" then
      match v with
      | .arr items => ofFields source 0 [] items
      | _ => .error (.invalidDescriptor (.partNotList "dictionary" "fields") source)
    else ofFieldsPart source rest

/-- The fields of a record from number `index` on, where `seen` holds the names before it. -/
def ofFields (source : Option Text) (index : Nat) (seen : List Text) :
    List Json → Except GenerationError (List (Field Shape))
  | [] => .ok []
  | .obj entry :: rest =>
    match lookup? "name" entry with
    | some (.str name) =>
      if seen.contains name then .error (.invalidDescriptor (.fieldRepeated name) source)
      else do
        let s ← ofPart source "dictionary field" "model" entry
        let optional := ((lookup? "optional" entry).map Json.truthy).getD false
        let fields ← ofFields source (index + 1) (name :: seen) rest
        .ok (⟨name, s, optional⟩ :: fields)
    | _ => .error (.invalidDescriptor (.fieldUnnamed index) source)
  | _ :: _ => .error (.invalidDescriptor (.fieldNotObject index) source)

end

end CallBindings.Shape
