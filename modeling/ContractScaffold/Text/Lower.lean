/-
Small letters: the small form of a text. Outside ASCII a capital letter is
mapped by the table of small forms, the dotted capital I becomes two
characters, and a capital sigma becomes the final form at the end of a word.

* `lowerChar`: the small form of a character on its own.
* `lower`: the small form of a text.
-/
import ContractScaffold.Text.Basic
import ContractScaffold.Text.CaseTable

namespace ContractScaffold

namespace Text

/-- A letter that has a case. -/
def isCased (c : Char) : Bool :=
  inRanges casedRanges c

/-- A character that does not end the word around it. -/
def isCaseIgnorable (c : Char) : Bool :=
  inRanges caseIgnorableRanges c

/-- The code point of a single small form, by the table. -/
def lowerCode (n : Nat) : Nat :=
  match lowerRuns.find? fun r =>
      decide (r.first ≤ n) && decide (n ≤ r.last) && (n - r.first) % r.step == 0 with
  | some r => r.image + (n - r.first)
  | none => n

/-- The small form of a character on its own. -/
def lowerChar (c : Char) : Text :=
  if c.toNat < 0x80 then [c.toLower]
  else if c = 'İ' then ['i', '\u0307']
  else [Char.ofNat (lowerCode c.toNat)]

/-- Whether the next character that could end a word belongs to it. -/
def continuesWord (t : Text) : Bool :=
  match t.dropWhile isCaseIgnorable with
  | [] => false
  | c :: _ => isCased c

/-- The small form of a text that stands in a word, where `inWord` says whether
a letter of that word comes before it. -/
def lowerFrom (inWord : Bool) : Text → Text
  | [] => []
  | c :: t =>
    (if c = 'Σ' then [if inWord && !continuesWord t then 'ς' else 'σ'] else lowerChar c) ++
      lowerFrom (if isCaseIgnorable c then inWord else isCased c) t

/-- The small form of a text. -/
def lower (t : Text) : Text :=
  lowerFrom false t

end Text

end ContractScaffold
