/-
The lines of a text. A line ends at a line feed, and a carriage return right
before that line feed belongs to the line's end. What follows the last line feed
is a line of its own when it is not empty, and keeps a carriage return, since no
line feed follows it.

* `lines`: the lines in order, without their ends.
* `unlines`: the lines put together again, a line feed between two of them.
-/
import ContractScaffold.Text.Basic

namespace ContractScaffold

namespace Text

/-- The text without one carriage return at its end. -/
def dropReturn (t : Text) : Text :=
  if t.getLast? = some '\r' then t.dropLast else t

/-- The lines among the pieces between line feeds: a line feed follows each piece
but the last. -/
def linesOfPieces : List Text → List Text
  | [] => []
  | [last] => if last.isEmpty then [] else [last]
  | piece :: next :: rest => dropReturn piece :: linesOfPieces (next :: rest)

/-- The lines of a text, without their ends. -/
def lines (t : Text) : List Text :=
  linesOfPieces (t.splitOn '\n')

/-- The lines joined by line feeds. -/
def unlines (ls : List Text) : Text :=
  joinWith ['\n'] ls

end Text

end ContractScaffold
