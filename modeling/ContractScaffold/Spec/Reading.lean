/-
Reading the specification of a contract from a document. Reading is total: a
section that is missing or malformed leaves its field empty.

* `ContractFunction.ofSection?`: the function that a section describes.
* `Spec.ofDocument`, `Spec.ofText`: the specification.
-/
import ContractScaffold.Document
import ContractScaffold.Identifier
import ContractScaffold.Spec.Entry
import ContractScaffold.Spec.Field
import ContractScaffold.Spec.Vocabulary

namespace ContractScaffold

open Text

/-- A code quote. -/
def isCodeQuote (c : Char) : Bool :=
  c == '\x60'

/-- The text without code quotes. -/
def withoutCodeQuotes (t : Text) : Text :=
  t.filter fun c => !isCodeQuote c

namespace ContractFunction

/-- The name and the parameter text of a function heading: the name ends at the
first opening parenthesis, the parameters at the first closing one after it. -/
def ofHeading? (heading : Text) : Option (Text × Text) := do
  if sameLetters (heading.take functionWord.length) functionWord then
    let t := heading.drop functionWord.length
    let _ ← (t.takeWhile (· != '(')).head?
    let inner ← after? '(' (t.dropWhile (· != '('))
    let _ ← after? ')' (inner.dropWhile (· != ')'))
    return (trim (strip isCodeQuote (trim (t.takeWhile (· != '(')))),
      withoutCodeQuotes (inner.takeWhile (· != ')')))
  else none

/-- The function that a section describes. -/
def ofSection? (s : Section) : Option ContractFunction := do
  let (name, parameters) ← ofHeading? s.heading
  let fields := Field.list s.body
  return {
    name
    description := Field.single fields descriptionLabel
    parameters := Parameter.list parameters
    preconditions := Field.several fields preconditionLabel
    postconditions := Field.several fields postconditionLabel
    security := Field.single fields securityLabel
    events := Field.several fields eventsLabel
    returns := Field.single fields returnsLabel }

end ContractFunction

namespace Document

/-- The name of the contract: the first line of its section that is not blank,
as a name of the record. -/
def contractName (d : Document) : Text :=
  recordName (((trimmedLines (d.body contractNameHeading)).find? fun l => !l.isEmpty).getD [])

/-- The functions that the sections describe, in order. -/
def functions (d : Document) : List ContractFunction :=
  d.sections.filterMap ContractFunction.ofSection?

/-- The state invariants, without code quotes. -/
def stateInvariants (d : Document) : List Text :=
  (bullets (d.body invariantsHeading)).map fun item => trim (withoutCodeQuotes item)

end Document

namespace Spec

/-- The specification that a document gives. -/
def ofDocument (d : Document) : Spec where
  contractName := d.contractName
  securityRequirements := bullets (d.body securityHeading)
  functions := d.functions
  stateVariables := StateVariable.list (d.body stateVariablesHeading)
  events := Event.list (d.body eventsHeading)
  stateInvariants := d.stateInvariants

/-- The specification that a text gives. -/
def ofText (t : Text) : Spec :=
  ofDocument (Document.ofText t)

end Spec

end ContractScaffold
