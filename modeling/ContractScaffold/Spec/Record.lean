/-
The record of a specification: its JSON value, and reading that value again. The
members stand in the order of the fields.

* `Spec.toJson`, `Spec.compact`, `Spec.indented`: the record as a value, and its
  two texts.
* `Spec.ofJson?`, `Spec.ofRecord?`: the specification that a value, or a text,
  records. Every field must be there and of its type; other members are ignored.
-/
import ContractScaffold.Json.Reading
import ContractScaffold.Spec

namespace ContractScaffold

namespace Parameter

/-- The names of the fields of a parameter. -/
def fieldNames : List Text := ["type", "name"]

/-- A parameter as a value. -/
def toJson (p : Parameter) : Json :=
  .object (fieldNames.zip [.string p.type, .string p.name])

/-- The parameter that a value records. -/
def ofJson? (j : Json) : Option Parameter :=
  match j.fields? fieldNames with
  | some [type, name] => return ⟨← type.text?, ← name.text?⟩
  | _ => none

end Parameter

namespace ContractFunction

/-- The names of the fields of a function. -/
def fieldNames : List Text :=
  ["name", "description", "parameters", "preconditions", "postconditions", "security", "events",
   "returns"]

/-- A function as a value. -/
def toJson (f : ContractFunction) : Json :=
  .object (fieldNames.zip
    [.string f.name, .string f.description, .array (f.parameters.map Parameter.toJson),
     .ofTexts f.preconditions, .ofTexts f.postconditions, .string f.security,
     .ofTexts f.events, .string f.returns])

/-- The function that a value records. -/
def ofJson? (j : Json) : Option ContractFunction :=
  match j.fields? fieldNames with
  | some [name, description, parameters, preconditions, postconditions, security, events,
      returns] => do
    return {
      name := ← name.text?
      description := ← description.text?
      parameters := ← parameters.list? Parameter.ofJson?
      preconditions := ← preconditions.list? Json.text?
      postconditions := ← postconditions.list? Json.text?
      security := ← security.text?
      events := ← events.list? Json.text?
      returns := ← returns.text? }
  | _ => none

end ContractFunction

namespace StateVariable

/-- The names of the fields of a state variable. -/
def fieldNames : List Text := ["name", "type", "description"]

/-- A state variable as a value. -/
def toJson (v : StateVariable) : Json :=
  .object (fieldNames.zip [.string v.name, .string v.type, .string v.description])

/-- The state variable that a value records. -/
def ofJson? (j : Json) : Option StateVariable :=
  match j.fields? fieldNames with
  | some [name, type, description] =>
    return ⟨← name.text?, ← type.text?, ← description.text?⟩
  | _ => none

end StateVariable

namespace Event

/-- The names of the fields of an event. -/
def fieldNames : List Text := ["name", "parameters", "description"]

/-- An event as a value. -/
def toJson (e : Event) : Json :=
  .object (fieldNames.zip [.string e.name, .string e.parameters, .string e.description])

/-- The event that a value records. -/
def ofJson? (j : Json) : Option Event :=
  match j.fields? fieldNames with
  | some [name, parameters, description] =>
    return ⟨← name.text?, ← parameters.text?, ← description.text?⟩
  | _ => none

end Event

namespace Spec

/-- The names of the fields of a specification. -/
def fieldNames : List Text :=
  ["contractName", "securityRequirements", "functions", "stateVariables", "events",
   "stateInvariants"]

/-- A specification as a value. -/
def toJson (s : Spec) : Json :=
  .object (fieldNames.zip
    [.string s.contractName, .ofTexts s.securityRequirements,
     .array (s.functions.map ContractFunction.toJson),
     .array (s.stateVariables.map StateVariable.toJson),
     .array (s.events.map Event.toJson), .ofTexts s.stateInvariants])

/-- The specification that a value records. -/
def ofJson? (j : Json) : Option Spec :=
  match j.fields? fieldNames with
  | some [contractName, securityRequirements, functions, stateVariables, events,
      stateInvariants] => do
    return {
      contractName := ← contractName.text?
      securityRequirements := ← securityRequirements.list? Json.text?
      functions := ← functions.list? ContractFunction.ofJson?
      stateVariables := ← stateVariables.list? StateVariable.ofJson?
      events := ← events.list? Event.ofJson?
      stateInvariants := ← stateInvariants.list? Json.text? }
  | _ => none

/-- The record on one line. -/
def compact (s : Spec) : Text :=
  s.toJson.print .compact 0

/-- The record with a line for every member and item. -/
def indented (s : Spec) : Text :=
  s.toJson.print .indented 0

/-- The specification that a text records. -/
def ofRecord? (t : Text) : Option Spec :=
  (Json.ofText? t).bind ofJson?

end Spec

end ContractScaffold
