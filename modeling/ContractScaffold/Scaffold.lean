/-
The texts that a specification gives for the placeholders of a template. Nothing
is checked or executed: the source is a scaffold for a person to complete.

* `docBlock`, `body`, `functionText`: the documentation comment, the body and
  the whole of one function.
* `functionsText`, `stateVariablesText`, `eventsText`: the members that the
  family does not provide, or a comment that there are none.
* `constructorArguments`, `constructorInheritance`, `constructorLogic`: the
  pieces of the constructor.
* `tokens`: the text of every placeholder of a family.
-/
import ContractScaffold.Family
import ContractScaffold.Identifier
import ContractScaffold.Rule

namespace ContractScaffold

open Text

namespace Scaffold

/-- What separates two lines of members of a contract. -/
def memberBreak : Text := "\n    "

/-- The indentation of a statement. -/
def statementIndent : Text := "        "

/-- The line in every function body that marks it as unfinished. -/
def unfinished : Text := "// TODO: Implement function logic"

/-- The import lines: those of the family, then those of the capabilities. -/
def importsText (family : Family) (capabilities : List Capability) : Text :=
  joinWith "\n" (family.baseImports ++ capabilities.map Capability.importLine)

/-- The base contracts: those of the family, then those of the capabilities. -/
def inheritanceText (family : Family) (capabilities : List Capability) : Text :=
  joinWith ", " (family.baseContracts ++ capabilities.map Capability.base)

/-- The type of a state variable as its declaration writes it. A mapping loses
the word `public`, since the declaration adds one. -/
def declaredType (type : Text) : Text :=
  if occursIn "mapping" type || occursIn "=>" type then trim (without "public" type) else type

/-- The declaration of a state variable. -/
def stateVariableLine (v : StateVariable) : Text :=
  declaredType v.type ++ " public " ++ v.name ++ "; // " ++ v.description

/-- The declarations of the state variables that the family does not provide. -/
def stateVariablesText (family : Family) (vs : List StateVariable) : Text :=
  if vs.isEmpty then "// No custom state variables"
  else
    match vs.filter fun v => !family.providedStateVariables.elem v.name with
    | [] => "// No custom state variables (standard " ++ family.label ++ " variables inherited)"
    | custom => joinWith memberBreak (custom.map stateVariableLine)

/-- The declaration of an event. -/
def eventLine (e : Event) : Text :=
  "event " ++ e.name ++ "(" ++ e.parameters ++ "); // " ++ e.description

/-- The declarations of the events that the family does not provide. -/
def eventsText (family : Family) (events : List Event) : Text :=
  if events.isEmpty then "// No custom events"
  else
    match events.filter fun e => !family.providedEvents.elem e.name with
    | [] => "// No custom events (standard " ++ family.label ++ " events inherited)"
    | custom => joinWith memberBreak (custom.map eventLine)

/-- The parameters of the constructor, empty where there is none. -/
def constructorArguments (s : Spec) : Text :=
  match s.constructor? with
  | some f => f.parameterList
  | none => []

/-- The first parameter of the constructor whose name holds the word, in any
letter case. -/
def constructorParameter? (s : Spec) (word : Text) : Option Parameter :=
  s.constructor?.bind fun f => f.parameters.find? fun p => occursIn word (lower p.name)

/-- The call of the base contract in the constructor: with the parameters for a
name and a symbol where the constructor has both, else with the literals of the
family. -/
def constructorInheritance (family : Family) (s : Spec) : Text :=
  match family.baseConstructor? with
  | none => []
  | some base =>
    match constructorParameter? s "name", constructorParameter? s "symbol" with
    | some name, some symbol => base.contract ++ "(" ++ name.name ++ ", " ++ symbol.name ++ ")"
    | _, _ => base.contract ++ "(" ++ base.defaultName ++ ", " ++ base.defaultSymbol ++ ")"

/-- A text as a comment line. -/
def comment (t : Text) : Text :=
  "// " ++ t

/-- The postconditions of the constructor as comments. -/
def constructorLogic (s : Spec) : Text :=
  match s.constructor? with
  | none => "// No constructor logic"
  | some f => joinWith ("\n" ++ statementIndent) (f.postconditions.map comment)

/-- The description of a function, or a sentence that stands for it. -/
def notice (f : ContractFunction) : Text :=
  if (trim f.description).isEmpty then "Function implementation" else trim f.description

/-- A line of a documentation comment: a tag and its text. -/
def docLine (tag t : Text) : Text :=
  " * @" ++ tag ++ " " ++ t

/-- A line of a documentation comment, or none for an empty text. -/
def optionalDocLine (tag t : Text) : List Text :=
  if t.isEmpty then [] else [docLine tag t]

/-- The line of a documentation comment for a parameter. -/
def parameterDocLine (p : Parameter) : Text :=
  docLine "param" (p.name ++ ' ' :: p.type)

/-- The first line of a documentation comment. -/
def docOpening : Text := "/**"

/-- The last line of a documentation comment. -/
def docClosing : Text := " */"

/-- The lines of the documentation comment of a function. -/
def docLines (f : ContractFunction) : List Text :=
  docOpening :: docLine "notice" (notice f) :: f.parameters.map parameterDocLine ++
    optionalDocLine "return" f.returns ++ optionalDocLine "dev Security:" f.security ++
    [docClosing]

/-- The documentation comment of a function. -/
def docBlock (f : ContractFunction) : Text :=
  joinWith memberBreak (docLines f)

/-- The lines for a precondition: itself as a comment, and its guard. -/
def preconditionLines (rules : RuleSet) (condition : Text) : List Text :=
  comment condition :: (rules.guard? condition).toList

/-- The line above the preconditions of a function. -/
def preconditionsTitle : Text := "// Preconditions:"

/-- The lines for the preconditions of a function, an empty line after them. -/
def preconditionBlock (rules : RuleSet) (conditions : List Text) : List Text :=
  if conditions.isEmpty then []
  else preconditionsTitle :: conditions.flatMap (preconditionLines rules) ++ [[]]

/-- The line for an event that a function emits. -/
def emitLine (event : Text) : Text :=
  "// emit " ++ event

/-- The lines for the events that a function emits, an empty line before them. -/
def eventBlock (events : List Text) : List Text :=
  if events.isEmpty then [] else [] :: events.map emitLine

/-- The line that returns a truth value, where one is returned, and an empty line
before it. -/
def returnBlock (returns : Text) : List Text :=
  if occursIn "bool" (lower returns) then [[], "return true;"] else []

/-- The statements of a function body, without indentation. -/
def bodyLines (rules : RuleSet) (f : ContractFunction) : List Text :=
  preconditionBlock rules f.preconditions ++ unfinished :: rules.hints f.name ++
    eventBlock f.events ++ returnBlock f.returns

/-- A line of a function body at its indentation; an empty line has none. -/
def statement (line : Text) : Text :=
  if line.isEmpty then [] else statementIndent ++ line

/-- The body of a function. -/
def body (rules : RuleSet) (f : ContractFunction) : Text :=
  joinWith "\n" ((bodyLines rules f).map statement)

/-- What a signature says of the returned values. -/
def returnsClause (returns : Text) : Text :=
  if returns.isEmpty then [] else " returns (" ++ returns ++ ")"

/-- The declaration of a function: its parameters, the modifiers that its access
text calls for, and what it returns. -/
def signature (rules : RuleSet) (f : ContractFunction) : Text :=
  "function " ++ f.name ++ "(" ++ f.parameterList ++ ") public" ++
    (rules.functionCapabilities f).flatMap (fun c => ' ' :: c.modifier) ++
    returnsClause f.returns

/-- The whole of a function. -/
def functionText (rules : RuleSet) (f : ContractFunction) : Text :=
  docBlock f ++ memberBreak ++ signature rules f ++ " \x7b\n" ++ body rules f ++ "\n    \x7d"

/-- The functions that neither are constructors nor provided by the family. -/
def customFunctions (family : Family) (functions : List ContractFunction) :
    List ContractFunction :=
  functions.filter fun f => !f.isConstructor && !family.providesFunction f.name

/-- The functions that the family does not provide. -/
def functionsText (family : Family) (rules : RuleSet) (functions : List ContractFunction) :
    Text :=
  if functions.isEmpty then "// No custom functions"
  else
    match customFunctions family functions with
    | [] => "// Custom functions already implemented in template"
    | custom => joinWith "\n\n    " (custom.map (functionText rules))

/-- The text of the placeholders that every family fills. -/
def commonTokens (family : Family) (rules : RuleSet) (s : Spec) : List (Text × Text) :=
  let capabilities := rules.capabilities s
  [("CONTRACT_NAME", identifierOf s.contractName),
   ("IMPORTS", importsText family capabilities),
   ("INHERITANCE", inheritanceText family capabilities),
   ("STATE_VARIABLES", stateVariablesText family s.stateVariables),
   ("EVENTS", eventsText family s.events),
   ("CONSTRUCTOR_ARGS", constructorArguments s),
   ("CONSTRUCTOR_INHERITANCE", constructorInheritance family s),
   ("CONSTRUCTOR_LOGIC", constructorLogic s),
   ("FUNCTIONS", functionsText family rules s.functions),
   ("OVERRIDES", [])]

/-- The text of every placeholder that the family fills. -/
def tokens (family : Family) (rules : RuleSet) (s : Spec) : List (Text × Text) :=
  commonTokens family rules s ++ family.extraTokens

end Scaffold

end ContractScaffold
