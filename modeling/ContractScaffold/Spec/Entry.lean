/-
The entries of the list sections: bullets, state variables, events and the
parameters of a signature.

* `bullets`: the items of a section's hyphen list.
* `Parameter.ofText`, `Parameter.list`: the parameters of a signature.
* `StateVariable.ofLine?`, `StateVariable.list`: entries with a declaration in
  code quotes and a description.
* `Event.ofLine?`, `Event.list`: entries with an event in code quotes and a
  description.
-/
import ContractScaffold.Spec
import ContractScaffold.Text.Lines

namespace ContractScaffold

open Text

/-- The lines of a section body, without blank space at their ends. -/
def trimmedLines (body : Text) : List Text :=
  (lines body).map trim

/-- The items of the hyphen list in a section body, without the hyphen. Lines
that begin otherwise are no items. -/
def bullets (body : Text) : List Text :=
  (trimmedLines body).filterMap fun line => (after? '-' line).map trim

/-- A declaration as its type and its name: the last word is the name, and the
words before it make the type. -/
def typeAndName (ws : List Text) : Text × Text :=
  (joinWith " " ws.dropLast, ws.getLastD [])

namespace Parameter

/-- A parameter of a signature. A single word is its type. -/
def ofText (t : Text) : Parameter :=
  match words t with
  | [type] => ⟨type, []⟩
  | ws => let (type, name) := typeAndName ws; ⟨type, name⟩

/-- The parameters of a signature, separated by commas; a blank text has none. -/
def list (t : Text) : List Parameter :=
  if isAllBlank t then [] else (t.splitOn ',').map ofText

end Parameter

/-- The text between two code quotes at the beginning, blank space aside, and
the text after them. -/
def quoted? (t : Text) : Option (Text × Text) := do
  let t ← after? '\x60' (t.dropWhile isBlank)
  let rest ← after? '\x60' (t.dropWhile (· != '\x60'))
  return (t.takeWhile (· != '\x60'), rest)

/-- The description of an entry: what follows a hyphen, which must not be
nothing. -/
def description? (t : Text) : Option Text := do
  let t ← after? '-' (t.dropWhile isBlank)
  if t = [] then none else return trim t

namespace StateVariable

/-- The state variable on a trimmed line. Its declaration has at least a type and
a name. -/
def ofLine? (line : Text) : Option StateVariable := do
  let (declaration, rest) ← quoted? (← after? '-' line)
  let description ← description? rest
  let (type, name) := typeAndName (words declaration)
  if type = [] then none else return ⟨name, type, description⟩

/-- The state variables of a section body. -/
def list (body : Text) : List StateVariable :=
  (trimmedLines body).filterMap ofLine?

end StateVariable

namespace Event

/-- The event on a trimmed line: its name and, in parentheses, its parameters,
which end at the first closing parenthesis. -/
def ofLine? (line : Text) : Option Event := do
  let item ← after? '-' line
  let t ← after? '\x60' (item.dropWhile isBlank)
  let isNameChar (c : Char) : Bool := c != '(' && c != '\x60'
  let _ ← (t.takeWhile isNameChar).head?
  let inner ← after? '(' (t.dropWhile isNameChar)
  let closed ← after? ')' (inner.dropWhile (· != ')'))
  let rest ← after? '\x60' closed
  let description ← description? rest
  return ⟨trim (t.takeWhile isNameChar), trim (inner.takeWhile (· != ')')), description⟩

/-- The events of a section body. -/
def list (body : Text) : List Event :=
  (trimmedLines body).filterMap ofLine?

end Event

end ContractScaffold
