/-
The specification of a contract: what a document says about a contract, field by
field. It is the only thing that reading a document hands on to rendering.

* `Parameter`, `ContractFunction`, `StateVariable`, `Event`, `Spec`: the record
  and its parts; texts are kept as they were written.
* `ContractFunction.parameterList`: the parameters as a signature writes them.
* `ContractFunction.isConstructor`, `Spec.constructor?`: the constructor, named
  in any letter case.
-/
import ContractScaffold.Text.Blank

namespace ContractScaffold

open Text

/-- A parameter of a function: its type, a data location included, and its name.
Either may be empty. -/
structure Parameter where
  type : Text
  name : Text
  deriving DecidableEq, Repr

/-- A function of the contract. The lists hold the items of a comma-separated
value; an empty text means that the document says nothing. -/
structure ContractFunction where
  name : Text
  description : Text
  parameters : List Parameter
  preconditions : List Text
  postconditions : List Text
  security : Text
  events : List Text
  returns : Text
  deriving DecidableEq, Repr

/-- A state variable of the contract. Its type may hold spaces. -/
structure StateVariable where
  name : Text
  type : Text
  description : Text
  deriving DecidableEq, Repr

/-- An event of the contract. Its parameters are kept as one text. -/
structure Event where
  name : Text
  parameters : Text
  description : Text
  deriving DecidableEq, Repr

/-- The specification of a contract. -/
structure Spec where
  contractName : Text
  securityRequirements : List Text
  functions : List ContractFunction
  stateVariables : List StateVariable
  events : List Event
  stateInvariants : List Text
  deriving DecidableEq, Repr

namespace Parameter

/-- A parameter as a signature writes it: the type, then the name. -/
def signature (p : Parameter) : Text :=
  trim (p.type ++ " " ++ p.name)

end Parameter

namespace ContractFunction

/-- The parameters as a signature writes them. -/
def parameterList (f : ContractFunction) : Text :=
  joinWith ", " (f.parameters.map Parameter.signature)

/-- Whether the function is the constructor of the contract. -/
def isConstructor (f : ContractFunction) : Bool :=
  sameLetters f.name "constructor"

end ContractFunction

namespace Spec

/-- The constructor: the first function of that name. -/
def constructor? (s : Spec) : Option ContractFunction :=
  s.functions.find? ContractFunction.isConstructor

end Spec

end ContractScaffold
