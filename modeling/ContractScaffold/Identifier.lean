/-
The two names that are made of a free-form contract name: the name in the record,
whose words are joined by underscores, and the identifier in the contract source
and its file name, whose words are joined with capitals.

* `recordName`: a non-empty text of identifier characters.
* `identifierOf`: an identifier, which begins with a letter or an underscore.
-/
import ContractScaffold.Text.Blank
import ContractScaffold.Text.Capital

namespace ContractScaffold

open Text

/-- The record's name of a contract that has none. -/
def unnamedContract : Text := "UnnamedContract"

/-- The identifier of a contract whose name leaves nothing to keep. -/
def generatedContract : Text := "GeneratedContract"

/-- The name in the record: the words joined by underscores, without the
characters that an identifier cannot hold. -/
def recordName (raw : Text) : Text :=
  let name := (joinWith "_" (words raw)).filter isWordChar
  if name.isEmpty then unnamedContract else name

/-- The text with its first character in capital form. -/
def capitalized : Text → Text
  | [] => []
  | c :: t => capital c ++ t

/-- The identifier characters of a name whose words begin with capitals. -/
def wordCapitals (raw : Text) : Text :=
  ((words raw).flatMap capitalized).filter isWordChar

/-- The identifier of a free-form name. An underscore comes before a digit at the
beginning. -/
def identifierOf (raw : Text) : Text :=
  match wordCapitals raw with
  | [] => generatedContract
  | c :: t => if c.isDigit then '_' :: c :: t else c :: t

end ContractScaffold
