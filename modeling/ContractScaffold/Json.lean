/-
JSON values and their text. Records and reports are written in one of two
layouts: on one line, or with a line for every member and item.

* `Json`: the values; members of an object are in the order of writing, and the
  only numbers are counts.
* `Layout.compact`, `Layout.indented`: the two layouts.
* `Json.print`: the text of a value. In strings only the quote, the backslash
  and control characters are escaped.
* `Json.fields?`, `Json.text?`, `Json.list?`: taking a value apart.
-/
import ContractScaffold.Text.Digit

namespace ContractScaffold

/-- A JSON value. -/
inductive Json where
  | null
  | bool (b : Bool)
  | number (n : Nat)
  | string (t : Text)
  | array (items : List Json)
  | object (members : List (Text × Json))
  deriving Inhabited

/-- How values are laid out: what stands between a key and its value, and what
begins a line at a depth. -/
structure Layout where
  colon : Text
  lineBreak : Nat → Text

namespace Layout

/-- Everything on one line, without spaces. -/
def compact : Layout where
  colon := ":"
  lineBreak _ := []

/-- A line for every member and item, two spaces further in than what holds
it. -/
def indented : Layout where
  colon := ": "
  lineBreak depth := '\n' :: List.replicate (2 * depth) ' '

end Layout

namespace Json

/-- A character as it stands in a string. -/
def escaped (c : Char) : Text :=
  if c = '\x22' then "\\\""
  else if c = '\\' then "\\\\"
  else if c = '\x08' then "\\b"
  else if c = '\x0c' then "\\f"
  else if c = '\n' then "\\n"
  else if c = '\r' then "\\r"
  else if c = '\t' then "\\t"
  else if c.toNat < 0x20 then "\\u00" ++ [(c.toNat / 16).digitChar, (c.toNat % 16).digitChar]
  else [c]

/-- The text of a string, quotes included. -/
def quoted (t : Text) : Text :=
  '\x22' :: t.flatMap escaped ++ ['\x22']

mutual

/-- The text of a value that stands at the depth. -/
def print (layout : Layout) (depth : Nat) : Json → Text
  | null => "null"
  | bool true => "true"
  | bool false => "false"
  | number n => Text.decimal n
  | string t => quoted t
  | array [] => "[]"
  | array (item :: items) =>
    '[' :: layout.lineBreak (depth + 1) ++ print layout (depth + 1) item ++
      printItems layout (depth + 1) items ++ layout.lineBreak depth ++ [']']
  | object [] => "\x7b\x7d"
  | object (member :: members) =>
    '\x7b' :: layout.lineBreak (depth + 1) ++ printMember layout (depth + 1) member ++
      printMembers layout (depth + 1) members ++ layout.lineBreak depth ++ ['\x7d']

/-- The text of the items after the first, each on its line. -/
def printItems (layout : Layout) (depth : Nat) : List Json → Text
  | [] => []
  | item :: items =>
    ',' :: layout.lineBreak depth ++ print layout depth item ++ printItems layout depth items

/-- The text of a member: its key and its value. -/
def printMember (layout : Layout) (depth : Nat) : Text × Json → Text
  | (key, value) => quoted key ++ layout.colon ++ print layout depth value

/-- The text of the members after the first, each on its line. -/
def printMembers (layout : Layout) (depth : Nat) : List (Text × Json) → Text
  | [] => []
  | member :: members =>
    ',' :: layout.lineBreak depth ++ printMember layout depth member ++
      printMembers layout depth members

end

/-- A list of texts as a value. -/
def ofTexts (ts : List Text) : Json :=
  array (ts.map string)

/-- The text that a value is. -/
def text? : Json → Option Text
  | string t => some t
  | _ => none

/-- The items of a list, read one by one. -/
def list? {α : Type} (read : Json → Option α) : Json → Option (List α)
  | array items => items.mapM read
  | _ => none

/-- The values of the fields of these names, in this order. A value may have them
as members in any order, others left aside, or as the items of a list of that
length. -/
def fields? (names : List Text) : Json → Option (List Json)
  | object members => names.mapM fun name => members.lookup name
  | array items => if items.length = names.length then some items else none
  | _ => none

end Json

end ContractScaffold
