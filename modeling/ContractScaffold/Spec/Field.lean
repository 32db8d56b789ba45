/-
The labelled items of a function section: list items of the forms
`- **Label**: value`, `- **Label:** value` and `- Label: value`.

* `Field.ofLine?`: the label and the value of one line.
* `Field.list`: the labelled items of a section body, line by line.
* `single`, `several`: the value under a label, as one text and as a
  comma-separated list; the first item with the label counts.
-/
import ContractScaffold.Text.Blank

namespace ContractScaffold

open Text

/-- A labelled item. -/
structure Field where
  label : Text
  value : Text
  deriving DecidableEq, Repr

namespace Field

/-- Blank space inside a line of the markup: spaces and tabs. -/
def isGap (c : Char) : Bool :=
  c == ' ' || c == '\t'

/-- A character of a label after the first. -/
def isLabelChar (c : Char) : Bool :=
  c.isAlpha || c == ' '

/-- The text without the mark of strong emphasis, where it begins with it. -/
def dropStrong : Text → Text
  | '*' :: '*' :: t => t
  | t => t

/-- The value after the colon of a label. A closing mark of strong emphasis is
skipped when something follows it; there is no value without any character. -/
def valueOf? (t : Text) : Option Text :=
  let value := if dropStrong t = [] then t else dropStrong t
  if value = [] then none else some (trim value)

/-- The labelled item on a line. -/
def ofLine? (line : Text) : Option Field := do
  let item ← after? '-' (line.dropWhile isGap)
  let labelled := dropStrong (item.dropWhile isGap)
  let label := labelled.takeWhile isLabelChar
  let _ ← label.head?.filter Char.isAlpha
  let value ← after? ':' ((dropStrong (labelled.dropWhile isLabelChar)).dropWhile isGap)
  return ⟨trim label, ← valueOf? value⟩

/-- The labelled items of a section body in order. -/
def list (body : Text) : List Field :=
  (body.splitOn '\n').filterMap ofLine?

/-- The value of the first item with the label, in any case of ASCII letters;
empty where there is none. -/
def single (fields : List Field) (label : Text) : Text :=
  match fields.find? fun f => sameLetters f.label label with
  | some f => f.value
  | none => []

/-- The items of a comma-separated value. A value without a comma is one item,
and empty items of a value with commas are left out. -/
def items (value : Text) : List Text :=
  if value = [] then []
  else if value.contains ',' then ((value.splitOn ',').map trim).filter fun item => !item.isEmpty
  else [value]

/-- The comma-separated items under the label. -/
def several (fields : List Field) (label : Text) : List Text :=
  items (single fields label)

end Field

end ContractScaffold
