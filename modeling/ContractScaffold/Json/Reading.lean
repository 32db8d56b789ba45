/-
Reading the text of a JSON value. Blank space may stand between any two tokens,
and every escape of the format is read; of the numbers only counts are, since a
value holds no others.

* `Json.stringBody?`: the string up to its closing quote.
* `Json.valueAt?`: the value that a text begins with. Values nest, so their depth
  is bounded by a count of steps; the length of the text is enough of them.
* `Json.ofText?`: the value of a text.
-/
import ContractScaffold.Json

namespace ContractScaffold

open Text

namespace Json

/-- A blank character between tokens. -/
def isGap (c : Char) : Bool :=
  c == ' ' || c == '\n' || c == '\r' || c == '\t'

/-- The text without blank space at its beginning. -/
def dropGap (t : Text) : Text :=
  t.dropWhile isGap

/-- The character that a letter after a backslash stands for. -/
def escapeOf? (c : Char) : Option Char :=
  if c = '\x22' then some '\x22'
  else if c = '\\' then some '\\'
  else if c = '/' then some '/'
  else if c = 'b' then some '\x08'
  else if c = 'f' then some '\x0c'
  else if c = 'n' then some '\n'
  else if c = 'r' then some '\r'
  else if c = 't' then some '\t'
  else none

/-- Whether a code unit is the first one of a pair. -/
def isLead (n : Nat) : Bool :=
  decide (0xD800 ≤ n) && decide (n < 0xDC00)

/-- The character that two code units make. -/
def ofPair? (lead trail : Nat) : Option Char :=
  if 0xDC00 ≤ trail ∧ trail < 0xE000 then
    some (Char.ofNat (0x10000 + 0x400 * (lead - 0xD800) + (trail - 0xDC00)))
  else none

/-- The character that a code unit of its own makes. -/
def ofUnit? (n : Nat) : Option Char :=
  if n.isValidChar then some (Char.ofNat n) else none

/-- A character in front of what was read after it. -/
def consChar (c : Char) (read : Option (Text × Text)) : Option (Text × Text) :=
  read.map fun r => (c :: r.1, r.2)

/-- The content of a string up to its closing quote, and the rest. -/
def stringBody? : Text → Option (Text × Text)
  | [] => none
  | '\x22' :: t => some ([], t)
  | '\\' :: 'u' :: a :: b :: c :: d :: t => do
    let n ← ofHex? [a, b, c, d]
    if isLead n then
      match t with
      | '\\' :: 'u' :: e :: f :: g :: h :: t =>
        consChar (← ofPair? n (← ofHex? [e, f, g, h])) (stringBody? t)
      | _ => none
    else consChar (← ofUnit? n) (stringBody? t)
  | '\\' :: c :: t => do consChar (← escapeOf? c) (stringBody? t)
  | c :: t => if c.toNat < 0x20 then none else consChar c (stringBody? t)

/-- The count that digits write: no digit comes after a leading zero. -/
def ofCount? (ds : Text) : Option Json :=
  if ds = [] ∨ (ds.head? = some '0' ∧ 1 < ds.length) then none
  else some (.number (ofDigits 10 ds))

/-- The value of the word that a text begins with, and the rest. -/
def wordAt? (t : Text) : Option (Json × Text) :=
  let word := t.takeWhile Char.isAlphanum
  let rest := t.dropWhile Char.isAlphanum
  if word = "null" then some (.null, rest)
  else if word = "true" then some (.bool true, rest)
  else if word = "false" then some (.bool false, rest)
  else if word.all Char.isDigit then (ofCount? word).map fun value => (value, rest)
  else none

mutual

/-- The value that a text begins with after blank space, and the rest. -/
def valueAt? : (steps : Nat) → Text → Option (Json × Text)
  | 0, _ => none
  | steps + 1, t =>
    match dropGap t with
    | '\x22' :: inner => do
      let (s, rest) ← stringBody? inner
      return (.string s, rest)
    | '[' :: inner =>
      match dropGap inner with
      | ']' :: rest => some (.array [], rest)
      | _ => do
        let (items, rest) ← itemsAt? steps inner
        return (.array items, rest)
    | '\x7b' :: inner =>
      match dropGap inner with
      | '\x7d' :: rest => some (.object [], rest)
      | _ => do
        let (members, rest) ← membersAt? steps inner
        return (.object members, rest)
    | word => wordAt? word

/-- The items of an array up to its closing bracket, and the rest. -/
def itemsAt? : (steps : Nat) → Text → Option (List Json × Text)
  | 0, _ => none
  | steps + 1, t => do
    let (item, rest) ← valueAt? steps t
    match dropGap rest with
    | ']' :: rest => return ([item], rest)
    | ',' :: next =>
      let (items, rest) ← itemsAt? steps next
      return (item :: items, rest)
    | _ => none

/-- The members of an object up to its closing brace, and the rest. -/
def membersAt? : (steps : Nat) → Text → Option (List (Text × Json) × Text)
  | 0, _ => none
  | steps + 1, t => do
    let (key, rest) ← stringBody? (← after? '\x22' (dropGap t))
    let (value, rest) ← valueAt? steps (← after? ':' (dropGap rest))
    match dropGap rest with
    | '\x7d' :: rest => return ([(key, value)], rest)
    | ',' :: next =>
      let (members, rest) ← membersAt? steps next
      return ((key, value) :: members, rest)
    | _ => none

end

/-- The value of a text, with nothing but blank space around it. -/
def ofText? (t : Text) : Option Json :=
  match valueAt? (t.length + 1) t with
  | some (value, rest) => if dropGap rest = [] then some value else none
  | none => none

end Json

end ContractScaffold
