/-
The scalar values of TOML: which words are booleans, numbers and moments, and the
four kinds of strings.

* `Toml.ofWord?`: the value that a word stands for.
* `Toml.stringAt?`: the string that a text begins with, and the rest of the text.
-/
import ContractScaffold.Text.Digit
import ContractScaffold.Toml

namespace ContractScaffold

open Text

namespace Toml

/-- A character that may stand in comments and literal strings: a tab, or no
control character. -/
def isPlainChar (c : Char) : Bool :=
  c == '\t' || (decide (0x20 ≤ c.toNat) && c.toNat != 0x7F)

/-- A blank character inside a line. -/
def isGap (c : Char) : Bool :=
  c == ' ' || c == '\t'

/-- The digits of a number whose underscores each stand between two digits. -/
def groupedDigits? (isDigit : Char → Bool) (t : Text) : Option Text :=
  if (t.splitOn '_').all fun group => !group.isEmpty && group.all isDigit then
    some (t.filter (· != '_'))
  else none

/-- Decimal digits without a leading zero. -/
def decimalDigits? (t : Text) : Option Text := do
  let ds ← groupedDigits? Char.isDigit t
  if ds.length ≤ 1 ∨ ds.head? ≠ some '0' then return ds else none

/-- A text without its sign, and whether the sign is a minus. -/
def splitSign : Text → Bool × Text
  | '-' :: t => (true, t)
  | '+' :: t => (false, t)
  | t => (false, t)

/-- The first number beyond the integers of 64 bits. -/
def integerLimit : Nat :=
  Nat.pow 2 63

/-- Whether a word is an integer of 64 bits. Bases other than ten take no sign. -/
def isInteger (word : Text) : Bool :=
  let based (base : Nat) (isDigit : Char → Bool) (t : Text) : Bool :=
    match groupedDigits? isDigit t with
    | some ds => decide (ofDigits base ds < integerLimit)
    | none => false
  match word with
  | '0' :: 'x' :: t => based 16 isHexDigit t
  | '0' :: 'o' :: t => based 8 (fun c => decide ('0' ≤ c) && decide (c ≤ '7')) t
  | '0' :: 'b' :: t => based 2 (fun c => c == '0' || c == '1') t
  | _ =>
    match decimalDigits? (splitSign word).2 with
    | some ds =>
      decide (ofDigits 10 ds < if (splitSign word).1 then integerLimit + 1 else integerLimit)
    | none => false

/-- Whether `m · 10 ^ e` rounds to a number of the double format, and not to its
infinity. -/
def isFinite (m : Nat) (e : Int) : Bool :=
  let size : Int := (Nat.toDigits 10 m).length + e
  if m = 0 ∨ size ≤ 300 then true
  else if 320 < size then false
  else
    let bound : Nat := Nat.pow 2 1024 - Nat.pow 2 970
    if 0 ≤ e then decide (m * Nat.pow 10 e.toNat < bound)
    else decide (m < bound * Nat.pow 10 (-e).toNat)

/-- Whether a word is a float: an integer part, and a fraction, an exponent or
both. A positive number too large for the double format is none. -/
def isFloat (word : Text) : Bool :=
  let (negative, t) := splitSign word
  if t = "inf" ∨ t = "nan" then true
  else
    let isMark (c : Char) : Bool := c == 'e' || c == 'E'
    let mantissa := t.takeWhile fun c => !isMark c
    let tail := t.dropWhile fun c => !isMark c
    let whole := mantissa.takeWhile (· != '.')
    let fraction := mantissa.dropWhile (· != '.')
    if fraction = [] ∧ tail = [] then false
    else
      let fractionDigits? : Option Text :=
        if fraction = [] then some [] else groupedDigits? Char.isDigit (fraction.drop 1)
      let exponent? : Option Int :=
        if tail = [] then some 0
        else
          let (down, ds) := splitSign (tail.drop 1)
          (groupedDigits? Char.isDigit ds).map fun ds =>
            if down then -(ofDigits 10 ds : Int) else (ofDigits 10 ds : Int)
      match decimalDigits? whole, fractionDigits?, exponent? with
      | some ds, some fs, some e =>
        negative || isFinite (ofDigits 10 (ds ++ fs)) (e - (fs.length : Int))
      | _, _, _ => false

/-- The number that two digits write, within bounds. -/
def twoDigits? (lo hi : Nat) (a b : Char) : Option Nat :=
  if a.isDigit && b.isDigit then
    let n := ofDigits 10 [a, b]
    if lo ≤ n ∧ n ≤ hi then some n else none
  else none

/-- How many days a month has. -/
def daysOfMonth (year month : Nat) : Nat :=
  if month = 2 then
    if year % 4 = 0 ∧ (year % 100 ≠ 0 ∨ year % 400 = 0) then 29 else 28
  else if month = 4 ∨ month = 6 ∨ month = 9 ∨ month = 11 then 30
  else 31

/-- The text after a date. -/
def afterDate? (t : Text) : Option Text :=
  match t with
  | y1 :: y2 :: y3 :: y4 :: '-' :: m1 :: m2 :: '-' :: d1 :: d2 :: rest => do
    let ys := [y1, y2, y3, y4]
    let month ← twoDigits? 1 12 m1 m2
    let day ← twoDigits? 1 31 d1 d2
    if ys.all Char.isDigit ∧ day ≤ daysOfMonth (ofDigits 10 ys) month then some rest else none
  | _ => none

/-- The text after a time of day. -/
def afterTime? (t : Text) : Option Text :=
  match t with
  | h1 :: h2 :: ':' :: m1 :: m2 :: ':' :: s1 :: s2 :: rest => do
    let _ ← twoDigits? 0 23 h1 h2
    let _ ← twoDigits? 0 59 m1 m2
    let _ ← twoDigits? 0 60 s1 s2
    match rest with
    | '.' :: fraction =>
      if (fraction.head?.map Char.isDigit).getD false then some (fraction.dropWhile Char.isDigit)
      else none
    | _ => some rest
  | _ => none

/-- Whether a text is the offset of a time zone, or empty. -/
def isOffset (t : Text) : Bool :=
  match t with
  | [] => true
  | [c] => c == 'Z' || c == 'z'
  | [sign, h1, h2, ':', m1, m2] =>
    (sign == '+' || sign == '-') && (twoDigits? 0 23 h1 h2).isSome && (twoDigits? 0 59 m1 m2).isSome
  | _ => false

/-- Whether a text is a time of day, with or without an offset. -/
def isTime (offset : Bool) (t : Text) : Bool :=
  match afterTime? t with
  | some rest => if offset then isOffset rest else rest.isEmpty
  | none => false

/-- Whether a word is a date, a time of day or both. -/
def isMoment (word : Text) : Bool :=
  match afterDate? word with
  | some [] => true
  | some (c :: t) => (c == 'T' || c == 't' || c == ' ') && isTime true t
  | none => isTime false word

/-- The value that a word stands for. -/
def ofWord? (word : Text) : Option Toml :=
  if word = "true" then some (.boolean true)
  else if word = "false" then some (.boolean false)
  else if isInteger word then some (.integer word)
  else if isFloat word then some (.float word)
  else if isMoment word then some (.moment word)
  else none

/-- The character that a letter after a backslash stands for. -/
def escapeOf? (c : Char) : Option Char :=
  if c = 'b' then some '\x08'
  else if c = 't' then some '\t'
  else if c = 'n' then some '\n'
  else if c = 'f' then some '\x0c'
  else if c = 'r' then some '\r'
  else if c = '\x22' then some '\x22'
  else if c = '\\' then some '\\'
  else none

/-- The character with the code point that hexadecimal digits write. -/
def charOfHex? (ds : Text) : Option Char := do
  let n ← ofHex? ds
  if n.isValidChar then return Char.ofNat n else none

/-- A character in front of what was read after it. -/
def consChar (c : Char) (read : Option (Text × Text)) : Option (Text × Text) :=
  read.map fun r => (c :: r.1, r.2)

/-- The content of a basic string up to its closing quote, and the rest. -/
def basicBody? : Text → Option (Text × Text)
  | [] => none
  | '\x22' :: t => some ([], t)
  | '\\' :: 'u' :: a :: b :: c :: d :: t => do
    consChar (← charOfHex? [a, b, c, d]) (basicBody? t)
  | '\\' :: 'U' :: a :: b :: c :: d :: e :: f :: g :: h :: t => do
    consChar (← charOfHex? [a, b, c, d, e, f, g, h]) (basicBody? t)
  | '\\' :: c :: t => do consChar (← escapeOf? c) (basicBody? t)
  | c :: t => if isPlainChar c then consChar c (basicBody? t) else none

/-- The content of a basic string of several lines up to its closing quotes, and
the rest. In the state `skipping` the blank space after a line's closing
backslash is passed over. -/
def basicLines? (skipping : Bool) : Text → Option (Text × Text)
  | [] => none
  | '\x22' :: '\x22' :: '\x22' :: '\x22' :: '\x22' :: t => some (['\x22', '\x22'], t)
  | '\x22' :: '\x22' :: '\x22' :: '\x22' :: t => some (['\x22'], t)
  | '\x22' :: '\x22' :: '\x22' :: t => some ([], t)
  | '\n' :: t => if skipping then basicLines? true t else consChar '\n' (basicLines? false t)
  | '\r' :: '\n' :: t =>
    if skipping then basicLines? true t else consChar '\n' (basicLines? false t)
  | '\\' :: 'u' :: a :: b :: c :: d :: t => do
    consChar (← charOfHex? [a, b, c, d]) (basicLines? false t)
  | '\\' :: 'U' :: a :: b :: c :: d :: e :: f :: g :: h :: t => do
    consChar (← charOfHex? [a, b, c, d, e, f, g, h]) (basicLines? false t)
  | '\\' :: c :: t =>
    match escapeOf? c with
    | some escaped => consChar escaped (basicLines? false t)
    | none =>
      match (c :: t).dropWhile isGap with
      | '\n' :: _ => basicLines? true (c :: t)
      | '\r' :: '\n' :: _ => basicLines? true (c :: t)
      | _ => none
  | c :: t =>
    if skipping && isGap c then basicLines? true t
    else if isPlainChar c then consChar c (basicLines? false t)
    else none

/-- The content of a literal string up to its closing quote, and the rest. -/
def literalBody? : Text → Option (Text × Text)
  | [] => none
  | '\x27' :: t => some ([], t)
  | c :: t => if isPlainChar c then consChar c (literalBody? t) else none

/-- The content of a literal string of several lines up to its closing quotes,
and the rest. -/
def literalLines? : Text → Option (Text × Text)
  | [] => none
  | '\x27' :: '\x27' :: '\x27' :: '\x27' :: '\x27' :: t => some (['\x27', '\x27'], t)
  | '\x27' :: '\x27' :: '\x27' :: '\x27' :: t => some (['\x27'], t)
  | '\x27' :: '\x27' :: '\x27' :: t => some ([], t)
  | '\n' :: t => consChar '\n' (literalLines? t)
  | '\r' :: '\n' :: t => consChar '\n' (literalLines? t)
  | c :: t => if isPlainChar c then consChar c (literalLines? t) else none

/-- The text without one line end at its beginning. -/
def dropLineEnd : Text → Text
  | '\n' :: t => t
  | '\r' :: '\n' :: t => t
  | t => t

/-- The string of one line that a text begins with, and the rest. -/
def lineStringAt? : Text → Option (Text × Text)
  | '\x22' :: t => basicBody? t
  | '\x27' :: t => literalBody? t
  | _ => none

/-- The string that a text begins with, and the rest. -/
def stringAt? : Text → Option (Text × Text)
  | '\x22' :: '\x22' :: '\x22' :: t => basicLines? false (dropLineEnd t)
  | '\x27' :: '\x27' :: '\x27' :: t => literalLines? (dropLineEnd t)
  | t => lineStringAt? t

end Toml

end ContractScaffold
