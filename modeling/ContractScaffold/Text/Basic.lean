/-
Texts as sequences of characters, and the operations on them that know nothing
of blank space, lines or letter case beyond ASCII.

* `Text`: the text type of the whole library; a string literal is read as one.
* `after?`: a text without the character that it has to begin with.
* `dropEndWhile`, `strip`: dropping characters of a class at the end, and at
  both ends.
* `occursIn`, `without`: whether a text occurs in another, and a text with every
  occurrence taken out.
* `joinWith`: texts put together, a separator between two of them.
* `sameLetters`: equality that ignores the case of ASCII letters.
* `inOrder`: the order of texts by the code points of their characters.
* `inRanges`, `isWordChar`: classes of characters.
-/

namespace ContractScaffold

/-- A text is the sequence of its characters. -/
abbrev Text := List Char

/-- A string literal stands for the text of its characters. -/
instance : Coe String Text := ⟨String.toList⟩

namespace Text

/-- The text after the character `c`, where the text begins with `c`. -/
def after? (c : Char) : Text → Option Text
  | [] => none
  | d :: t => if d = c then some t else none

theorem after?_eq_some_iff {c : Char} {t u : Text} : after? c t = some u ↔ t = c :: u := by
  cases t with
  | nil => simp [after?]
  | cons d t =>
    by_cases h : d = c
    · simp [after?, h]
    · simp [after?, h]

@[simp] theorem after?_cons_self (c : Char) (t : Text) : after? c (c :: t) = some t :=
  after?_eq_some_iff.mpr rfl

/-- The text without the longest run of characters of the class `p` at its end. -/
def dropEndWhile (p : Char → Bool) (t : Text) : Text :=
  (t.reverse.dropWhile p).reverse

/-- The text without the characters of the class `p` at either end. -/
def strip (p : Char → Bool) (t : Text) : Text :=
  dropEndWhile p (t.dropWhile p)

/-- Whether `part` occurs in the text as a run of consecutive characters. -/
def occursIn (part : Text) : Text → Bool
  | [] => part.isEmpty
  | c :: t => part.isPrefixOf (c :: t) || occursIn part t

/-- The text with the next `skip` characters passed over and then every
occurrence of `part` left out, the leftmost first. -/
def withoutFrom (part : Text) : Nat → Text → Text
  | _, [] => []
  | skip + 1, _ :: t => withoutFrom part skip t
  | 0, c :: t =>
    if part.isPrefixOf (c :: t) then withoutFrom part (part.length - 1) t
    else c :: withoutFrom part 0 t

/-- The text with every occurrence of the non-empty `part` left out. -/
def without (part t : Text) : Text :=
  withoutFrom part 0 t

/-- The texts in order, with the separator between two of them. -/
def joinWith (separator : Text) (ts : List Text) : Text :=
  separator.intercalate ts

/-- Equality of texts up to the case of ASCII letters. -/
def sameLetters (a b : Text) : Bool :=
  a.map Char.toLower == b.map Char.toLower

/-- Whether the first text does not come after the second, by the code points of
their characters. -/
def inOrder (a b : Text) : Bool :=
  !decide (b < a)

/-- Whether the code point of a character lies in one of the ranges, ends
included. -/
def inRanges (ranges : List (Nat × Nat)) (c : Char) : Bool :=
  ranges.any fun r => decide (r.1 ≤ c.toNat) && decide (c.toNat ≤ r.2)

/-- A character of an identifier: an ASCII letter, an ASCII digit or the
underscore. -/
def isWordChar (c : Char) : Bool :=
  c.isAlphanum || c == '_'

end Text

end ContractScaffold
