/-
Reading a TOML document: keys, arrays and inline tables, and the lines of the
document, which are headers and assignments.

* `Toml.keyAt?`: the dotted key that a text begins with.
* `Toml.valueAt?`: the value that a text begins with. Values nest, so their depth
  is bounded by a count of steps; the length of the text is enough of them.
* `Toml.document?`: the members of a document, if it is well formed.
-/
import ContractScaffold.Toml.Scalar

namespace ContractScaffold

namespace Toml

/-- A character of a key without quotes. -/
def isKeyChar (c : Char) : Bool :=
  c.isAlphanum || c == '-' || c == '_'

/-- The text without blank characters at its beginning. -/
def dropGap (t : Text) : Text :=
  t.dropWhile isGap

/-- The part of a key that a text begins with, and the rest. -/
def keyPartAt? (t : Text) : Option (Text × Text) :=
  match lineStringAt? t with
  | some read => some read
  | none =>
    let part := t.takeWhile isKeyChar
    if part = [] then none else some (part, t.dropWhile isKeyChar)

/-- The dotted key of at most `count` parts that a text begins with, and the rest
after blank space. -/
def keyAt? : (count : Nat) → Text → Option (List Text × Text)
  | 0, _ => none
  | count + 1, t => do
    let (part, rest) ← keyPartAt? t
    match dropGap rest with
    | '.' :: next =>
      let (parts, rest) ← keyAt? count (dropGap next)
      return (part :: parts, rest)
    | rest => return ([part], rest)

/-- The text without a comment at its beginning. -/
def dropComment : Text → Text
  | '#' :: t => t.dropWhile isPlainChar
  | t => t

/-- The text after the end of a line, which is also the end of the text. -/
def afterLineEnd? : Text → Option Text
  | [] => some []
  | '\n' :: t => some t
  | '\r' :: '\n' :: t => some t
  | _ => none

/-- The text after a line of which only blank space and a comment are left. -/
def finishLine? (t : Text) : Option Text :=
  afterLineEnd? (dropComment (dropGap t))

/-- The text after at most `count` pieces of blank space, comments and line ends
between the items of an array. -/
def dropSpace : (count : Nat) → Text → Text
  | 0, t => t
  | count + 1, t =>
    match dropComment (dropGap t) with
    | '\n' :: rest => dropSpace count rest
    | '\r' :: '\n' :: rest => dropSpace count rest
    | rest => rest

/-- The text after blank space of any kind. -/
def dropAllSpace (t : Text) : Text :=
  dropSpace (t.length + 1) t

/-- A character that ends a word. -/
def endsWord (c : Char) : Bool :=
  isGap c || c == '\n' || c == '\r' || c == ',' || c == ']' || c == '\x7d' || c == '#'

/-- The value of the word that a text begins with, and the rest. A date and a
time of day may be two words. -/
def wordAt? (t : Text) : Option (Toml × Text) :=
  let word := t.takeWhile fun c => !endsWord c
  let rest := t.dropWhile fun c => !endsWord c
  let second := (rest.drop 1).takeWhile fun c => !endsWord c
  if rest.head? = some ' ' ∧ afterDate? word = some [] ∧ isTime true second then
    some (.moment (word ++ ' ' :: second), (rest.drop 1).dropWhile fun c => !endsWord c)
  else (ofWord? word).map fun value => (value, rest)

mutual

/-- The value that a text begins with, and the rest. -/
def valueAt? : (steps : Nat) → Text → Option (Toml × Text)
  | 0, _ => none
  | steps + 1, t =>
    match t with
    | '[' :: inner => itemsAt? steps (dropAllSpace inner)
    | '\x7b' :: inner =>
      match dropGap inner with
      | '\x7d' :: rest => some (.inlineTable [], rest)
      | first => membersAt? steps [] first
    | _ =>
      match stringAt? t with
      | some (s, rest) => some (.string s, rest)
      | none => wordAt? t

/-- The items of an array up to its closing bracket, and the rest. -/
def itemsAt? : (steps : Nat) → Text → Option (Toml × Text)
  | 0, _ => none
  | steps + 1, t =>
    match t with
    | ']' :: rest => some (.array [], rest)
    | _ => do
      let (item, rest) ← valueAt? steps t
      match dropAllSpace rest with
      | ']' :: rest => return (.array [item], rest)
      | ',' :: rest =>
        match ← itemsAt? steps (dropAllSpace rest) with
        | (.array items, rest) => return (.array (item :: items), rest)
        | _ => none
      | _ => none

/-- The members of an inline table after those read already, up to its closing
brace, and the rest. -/
def membersAt? : (steps : Nat) → Members → Text → Option (Toml × Text)
  | 0, _, _ => none
  | steps + 1, read, t => do
    let (key, rest) ← keyAt? t.length t
    let value ← Text.after? '=' rest
    let (value, rest) ← valueAt? steps (dropGap value)
    let members ← Members.insert value key read
    match dropGap rest with
    | '\x7d' :: rest => return (.inlineTable members, rest)
    | ',' :: rest => membersAt? steps members (dropGap rest)
    | _ => none

end

/-- The document read so far: its members and the header that is open. -/
structure State where
  members : Members
  header : List Text

/-- The state after the header in single brackets that a text goes on with, and
the text after its line. -/
def headerLine? (state : State) (t : Text) : Option (State × Text) := do
  let (key, rest) ← keyAt? t.length (dropGap t)
  let rest ← Text.after? ']' rest
  return (⟨← Members.openTable key state.members, key⟩, ← finishLine? rest)

/-- The state after the header in double brackets that a text goes on with, and
the text after its line. -/
def itemLine? (state : State) (t : Text) : Option (State × Text) := do
  let (key, rest) ← keyAt? t.length (dropGap t)
  let rest ← Text.after? ']' (← Text.after? ']' rest)
  return (⟨← Members.openItem key state.members, key⟩, ← finishLine? rest)

/-- The state after the assignment that a text begins with, and the text after
its line. -/
def assignmentLine? (state : State) (t : Text) : Option (State × Text) := do
  let (key, rest) ← keyAt? t.length t
  let value ← Text.after? '=' rest
  let (value, rest) ← valueAt? (t.length + 1) (dropGap value)
  return (⟨← Members.within state.header (Members.insert value key) state.members, state.header⟩,
    ← finishLine? rest)

/-- The state after the line that a text begins with, and the text after it. -/
def line? (state : State) (t : Text) : Option (State × Text) :=
  match finishLine? t with
  | some rest => some (state, rest)
  | none =>
    match dropGap t with
    | '[' :: '[' :: t => itemLine? state t
    | '[' :: t => headerLine? state t
    | t => assignmentLine? state t

/-- The members of a document of at most `count` lines after those read
already. -/
def linesFrom? : (count : Nat) → State → Text → Option Members
  | _, state, [] => some state.members
  | 0, _, _ => none
  | count + 1, state, t => do
    let (state, rest) ← line? state t
    linesFrom? count state rest

/-- The text without a byte order mark. -/
def dropMark : Text → Text
  | '\uFEFF' :: t => t
  | t => t

/-- The members of a document. -/
def document? (t : Text) : Option Members :=
  linesFrom? t.length ⟨[], []⟩ (dropMark t)

end Toml

end ContractScaffold
