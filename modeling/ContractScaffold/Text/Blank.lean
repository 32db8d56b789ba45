/-
Blank space: the characters of the Unicode property `White_Space`, trimming and
the words of a text.

* `isBlank`: membership in the property, given by its ten ranges.
* `trim`: a text without blank space at its ends.
* `words`: the maximal runs of characters that are not blank.
-/
import ContractScaffold.Text.Basic

namespace ContractScaffold

namespace Text

/-- The ranges of code points with the property `White_Space`. -/
def blankRanges : List (Nat × Nat) :=
  [(0x09, 0x0D), (0x20, 0x20), (0x85, 0x85), (0xA0, 0xA0), (0x1680, 0x1680),
   (0x2000, 0x200A), (0x2028, 0x2029), (0x202F, 0x202F), (0x205F, 0x205F),
   (0x3000, 0x3000)]

/-- Whether a character is blank. -/
def isBlank (c : Char) : Bool :=
  inRanges blankRanges c

/-- The text without blank characters at its ends. -/
def trim (t : Text) : Text :=
  strip isBlank t

/-- A text of blank characters only, the empty text included. -/
def isAllBlank (t : Text) : Bool :=
  t.all isBlank

/-- The words of a text: its maximal runs of characters that are not blank. -/
def words (t : Text) : List Text :=
  (t.splitOnP isBlank).filter fun w => !w.isEmpty

end Text

end ContractScaffold
