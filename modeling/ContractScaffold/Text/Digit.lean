/-
Digits, and the numbers that they write.

* `isHexDigit`, `digitValue`: the digits of base sixteen and their values.
* `ofDigits`: the number that digits write.
* `decimal`: the decimal digits of a number.
-/
import ContractScaffold.Text.Basic

namespace ContractScaffold

namespace Text

/-- A hexadecimal digit, in small or capital letters. -/
def isHexDigit (c : Char) : Bool :=
  c.isDigit || (decide ('a' ≤ c) && decide (c ≤ 'f')) || (decide ('A' ≤ c) && decide (c ≤ 'F'))

/-- The value of a digit of any base up to sixteen. -/
def digitValue (c : Char) : Nat :=
  if c.isDigit then c.toNat - '0'.toNat else c.toLower.toNat - 'a'.toNat + 10

/-- The number that digits of a base write. -/
def ofDigits (base : Nat) (ds : Text) : Nat :=
  ds.foldl (fun n c => base * n + digitValue c) 0

/-- The number that hexadecimal digits write. -/
def ofHex? (ds : Text) : Option Nat :=
  if ds.all isHexDigit then some (ofDigits 16 ds) else none

/-- The decimal digits of a number. -/
def decimal (n : Nat) : Text :=
  Nat.toDigits 10 n

end Text

end ContractScaffold
