/-
Templates: source texts with placeholders. A placeholder is a name of identifier
characters in double braces; a line-comment mark directly before it, with spaces
and tabs between, belongs to it.

* `Piece`, `pieces`: a template as placeholders and single characters between
  them, found from left to right.
* `placeholders`: the names of the placeholders in order.
* `substitute`: the template with the placeholders of known names replaced, their
  marks included. Replacements are not searched again.
-/
import ContractScaffold.Text.Basic

namespace ContractScaffold

open Text

namespace Template

/-- A piece of a template. -/
inductive Piece where
  /-- A character that belongs to no placeholder. -/
  | plain (c : Char)
  /-- A placeholder with the comment mark before it, if there is one. -/
  | placeholder (mark name : Text)
  deriving DecidableEq, Repr

/-- The opening of a placeholder. -/
def opening : Text := "\x7b\x7b"

/-- The end of a placeholder. -/
def closing : Text := "\x7d\x7d"

/-- The text of a piece in its template. -/
def Piece.text : Piece → Text
  | plain c => [c]
  | placeholder mark name => mark ++ opening ++ name ++ closing

/-- The name in double braces that a text begins with. -/
def nameAt? (t : Text) : Option Text := do
  let inner ← opening.isPrefixOf? t
  let name := inner.takeWhile isWordChar
  let _ ← closing.isPrefixOf? (inner.dropWhile isWordChar)
  if name = [] then none else return name

/-- Blank space between a comment mark and its placeholder. -/
def isMarkGap (c : Char) : Bool :=
  c == ' ' || c == '\t'

/-- The placeholder that a text begins with. -/
def placeholderAt? (t : Text) : Option Piece :=
  match t with
  | '/' :: '/' :: rest =>
    (nameAt? (rest.dropWhile isMarkGap)).map
      (.placeholder ('/' :: '/' :: rest.takeWhile isMarkGap))
  | _ => (nameAt? t).map (.placeholder [])

/-- The pieces of a text after its next `skip` characters. -/
def piecesFrom : Nat → Text → List Piece
  | _, [] => []
  | skip + 1, _ :: t => piecesFrom skip t
  | 0, c :: t =>
    match placeholderAt? (c :: t) with
    | some piece => piece :: piecesFrom (piece.text.length - 1) t
    | none => .plain c :: piecesFrom 0 t

/-- The pieces of a template, from left to right. -/
def pieces (template : Text) : List Piece :=
  piecesFrom 0 template

/-- The name of a placeholder. -/
def Piece.name? : Piece → Option Text
  | plain _ => none
  | placeholder _ name => some name

/-- The names of the placeholders in order, repetitions included. -/
def placeholders (template : Text) : List Text :=
  (pieces template).filterMap Piece.name?

/-- The text of a piece where names have values. A placeholder without a value
stays as it is. -/
def Piece.fill (values : Text → Option Text) : Piece → Text
  | plain c => [c]
  | placeholder mark name => (values name).getD (placeholder mark name).text

/-- The template with the placeholders of known names replaced. -/
def substitute (values : Text → Option Text) (template : Text) : Text :=
  (pieces template).flatMap (Piece.fill values)

end Template

end ContractScaffold
