/-
The words of the markup: the headings above the sections of a document, and the
labels of the items in a function section.

* `contractNameHeading` to `invariantsHeading`: the headings.
* `functionWord`: what the heading of a function section begins with.
* `descriptionLabel` to `returnsLabel`: the labels.
-/
import ContractScaffold.Text.Basic

namespace ContractScaffold

/-- The heading above the name of the contract. -/
def contractNameHeading : Text := "Contract Name"

/-- The heading above the security requirements. -/
def securityHeading : Text := "Security Requirements"

/-- The heading above the state variables. -/
def stateVariablesHeading : Text := "State Variables"

/-- The heading above the events. -/
def eventsHeading : Text := "Events"

/-- The heading above the state invariants. -/
def invariantsHeading : Text := "State Invariants"

/-- The word that begins the heading of a function section. -/
def functionWord : Text := "Function:"

/-- The label of the description of a function. -/
def descriptionLabel : Text := "Description"

/-- The label of the preconditions of a function. -/
def preconditionLabel : Text := "Precondition"

/-- The label of the postconditions of a function. -/
def postconditionLabel : Text := "Postcondition"

/-- The label of the security note of a function. -/
def securityLabel : Text := "Security"

/-- The label of the events that a function emits. -/
def eventsLabel : Text := "Events"

/-- The label of what a function returns. -/
def returnsLabel : Text := "Returns"

end ContractScaffold
