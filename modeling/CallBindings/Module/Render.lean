import CallBindings.Module.Basic

set_option autoImplicit false

/-! # The text of a generated module

A module is written line by line: a header with imports and the name of the transport, one
line per type parameter, a class that lists the parameters, two record classes with one line
per contract, and a function that binds every contract. Lines that mention the type
parameters leave them out when there are none.
-/

namespace CallBindings.GeneratedModule

/-- Four blanks. -/
def indent : Text := "    "

/-- The type parameters between brackets after `before`, or nothing if there are none. -/
def parameterList (m : GeneratedModule) (before after : Text) : Text :=
  if m.typeParameters.isEmpty then []
  else before ++ "[" ++ Text.join ", " m.typeParameters ++ "]" ++ after

/-- The lines up to the name of the transport. -/
def headerLines (m : GeneratedModule) : List Text :=
  ["# Generated by contractbind at " ++ m.generatedAt.iso ++ ". Do not edit.",
    "from __future__ import annotations",
    "",
    "from typing import Any, Dict, Generic, List, Literal, Tuple, TypeVar, Union",
    "",
    "from typing_extensions import Never, NotRequired, TypedDict",
    "",
    "from contractbind.runtime import Binding, ContractTypes, DispatchOptions, bind",
    "",
    "TRANSPORT = " ++ m.transport.quote,
    ""]

/-- The line that declares a type parameter. -/
def parameterLine (name : Text) : Text := name ++ " = TypeVar(\"" ++ name ++ "\")"

/-- The declarations of the type parameters and the class that lists them. -/
def referenceLines (m : GeneratedModule) : List Text :=
  m.typeParameters.map parameterLine ++ (if m.typeParameters.isEmpty then [] else [[]]) ++
    ([[], "class ModelReferences" ++ m.parameterList "(Generic" ")" ++ ":",
      indent ++
        "\"\"\"Concrete types supplied by the consumer, one per referenced model id.\"\"\"",
      []] : List Text)

/-- The line of a contract in a record class. -/
def entryLine (wrapper : Text) (c : Compiled) : Text :=
  indent ++ c.id ++ ": " ++ wrapper ++ "[" ++ c.request ++ ", " ++ c.success ++ ", " ++
    c.exceptions ++ "]"

/-- A record class with one line per contract. -/
def mapLines (m : GeneratedModule) (name wrapper doc : Text) : List Text :=
  ([[], "class " ++ name ++ "(TypedDict" ++ m.parameterList ", Generic" "" ++ "):",
    indent ++ "\"\"\"" ++ doc ++ "\"\"\"", []] : List Text) ++
    (if m.contracts.isEmpty then [indent ++ "pass"] else m.contracts.map (entryLine wrapper)) ++
    [[]]

/-- The line that binds a contract. -/
def factoryLine (c : Compiled) : Text :=
  indent ++ indent ++ c.id.quote ++ ": " ++ c.binding ++ ","

/-- The function that binds every contract. -/
def factoryLines (m : GeneratedModule) : List Text :=
  ([[],
    "def create_bindings(options: DispatchOptions) -> Bindings" ++ m.parameterList "" "" ++ ":",
    indent ++ "return \x7b"] : List Text) ++
    m.contracts.map factoryLine ++ [indent ++ "\x7d"]

/-- All lines of the module. -/
def lines (m : GeneratedModule) : List Text :=
  m.headerLines ++ m.referenceLines ++
    m.mapLines "Contracts" "ContractTypes" "Request, success and exception types per contract." ++
    m.mapLines "Bindings" "Binding" "Call bindings returned by create_bindings()." ++
    m.factoryLines

/-- The text of the module; every line ends with a line feed. -/
def render (m : GeneratedModule) : Text := m.lines.flatMap fun line => line ++ "\n"

end CallBindings.GeneratedModule
