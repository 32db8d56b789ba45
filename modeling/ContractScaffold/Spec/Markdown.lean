/-
The document of a specification: the form in which every field of it is written
down, section by section.

* `ContractFunction.writtenFields`: the labelled items of a function section. An item
  is left out where its value is empty.
* `Spec.writtenSections`: the headings of the document, each with the lines below it.
* `Spec.documentLines`, `Spec.toMarkdown`: the lines of the document, and its
  text.
-/
import ContractScaffold.Spec
import ContractScaffold.Spec.Field
import ContractScaffold.Spec.Vocabulary
import ContractScaffold.Text.Lines

namespace ContractScaffold

open Text

/-- The line of a heading. -/
def headingLine (heading : Text) : Text :=
  "## " ++ heading

/-- The line of an item in a hyphen list. -/
def bulletLine (item : Text) : Text :=
  "- " ++ item

/-- The line of an item with a declaration in code quotes and a description. -/
def declarationLine (declaration description : Text) : Text :=
  "- \x60" ++ declaration ++ "\x60 - " ++ description

/-- The line of a labelled item, or none for an empty value. -/
def fieldLine (x : Field) : List Text :=
  if x.value.isEmpty then [] else ["- **" ++ x.label ++ "**: " ++ x.value]

/-- The items of a list as one value. -/
def commaList (items : List Text) : Text :=
  joinWith ", " items

/-- The heading of a function section: the name and the parameters. -/
def ContractFunction.heading (f : ContractFunction) : Text :=
  functionWord ++ " " ++ f.name ++ "(" ++ f.parameterList ++ ")"

/-- The labelled items of a function section. -/
def ContractFunction.writtenFields (f : ContractFunction) : List Field :=
  [⟨descriptionLabel, f.description⟩, ⟨preconditionLabel, commaList f.preconditions⟩,
   ⟨postconditionLabel, commaList f.postconditions⟩, ⟨securityLabel, f.security⟩,
   ⟨eventsLabel, commaList f.events⟩, ⟨returnsLabel, f.returns⟩]

/-- The line of a state variable. -/
def StateVariable.documentLine (v : StateVariable) : Text :=
  declarationLine (v.type ++ " " ++ v.name) v.description

/-- The line of an event. -/
def Event.documentLine (e : Event) : Text :=
  declarationLine (e.name ++ "(" ++ e.parameters ++ ")") e.description

namespace Spec

/-- The sections of the document: every heading with the lines below it. -/
def writtenSections (s : Spec) : List (Text × List Text) :=
  [(contractNameHeading, [s.contractName]),
   (securityHeading, s.securityRequirements.map bulletLine)] ++
  s.functions.map (fun f => (f.heading, f.writtenFields.flatMap fieldLine)) ++
  [(stateVariablesHeading, s.stateVariables.map StateVariable.documentLine),
   (eventsHeading, s.events.map Event.documentLine),
   (invariantsHeading, s.stateInvariants.map bulletLine)]

/-- The lines of the document of a specification. -/
def documentLines (s : Spec) : List Text :=
  s.writtenSections.flatMap fun x => headingLine x.1 :: x.2

/-- The document of a specification. -/
def toMarkdown (s : Spec) : Text :=
  unlines s.documentLines

end Spec

end ContractScaffold
