/-
Keyword rules over the free text of a specification. They decide what is added
to a scaffold: inherited capabilities, commented guards for preconditions and
commented hints for well-known functions. Keywords are looked for in small
letters, so what is phrased without them is missed.

* `Matcher.accepts`: every keyword of one list occurs in the text, and one of
  another, where that list has any.
* `Rule`, `RuleSet`: the rules in order; where one result is wanted the first
  rule that applies gives it.
* `RuleSet.capabilities`, `RuleSet.functionCapabilities`: what the functions of
  a specification call for, and one of them.
* `RuleSet.guard?`, `RuleSet.hints`: the guard of a precondition, the hints for a
  function name.
* `RuleSet.add`, `RuleSet.standard`: a rule behind the others, and the rules in force where
  no others are given.
-/
import ContractScaffold.Spec
import ContractScaffold.Text.Lower

namespace ContractScaffold

open Text

/-- Keywords that a text is searched for. -/
structure Matcher where
  all : List Text
  any : List Text
  deriving DecidableEq, Repr

/-- Every keyword of `all` occurs in the text, and one of `any` where there is
one. -/
def Matcher.accepts (m : Matcher) (t : Text) : Bool :=
  m.all.all (fun keyword => occursIn keyword t) &&
    (m.any.isEmpty || m.any.any fun keyword => occursIn keyword t)

/-- A base contract that functions can be restricted by: the line that imports
it, its name and the modifier it brings. -/
structure Capability where
  importLine : Text
  base : Text
  modifier : Text
  deriving DecidableEq, Repr

/-- A keyword rule. -/
inductive Rule where
  /-- A capability, where the access text of a function is accepted. -/
  | capability (matcher : Matcher) (capability : Capability)
  /-- A commented guard, where a precondition is accepted. -/
  | guard (matcher : Matcher) (statement : Text)
  /-- Commented hints for the function of this name, in any letter case. -/
  | hint (function : Text) (statements : List Text)
  deriving DecidableEq, Repr

/-- Rules in order. -/
abbrev RuleSet := List Rule

/-- The text that the capabilities of a function are looked for in: its security
note and its preconditions, one a line, in small letters. -/
def ContractFunction.accessText (f : ContractFunction) : Text :=
  lower f.security ++ f.preconditions.flatMap fun condition => '\n' :: lower condition

namespace Rule

/-- The capability of the rule, where its matcher is among those chosen. -/
def capabilityWhere? (chosen : Matcher → Bool) : Rule → Option Capability
  | capability matcher c => if chosen matcher then some c else none
  | _ => none

/-- The statement of the rule, where it guards the condition in small letters. -/
def guardOf? (condition : Text) : Rule → Option Text
  | guard matcher statement => if matcher.accepts condition then some statement else none
  | _ => none

/-- The statements of the rule, where it is for the function of that name. -/
def hintsOf? (name : Text) : Rule → Option (List Text)
  | hint function statements => if sameLetters function name then some statements else none
  | _ => none

end Rule

namespace RuleSet

/-- The rules with one more behind them. -/
def add (rules : RuleSet) (rule : Rule) : RuleSet :=
  rules ++ [rule]

/-- The capabilities of the rules whose matchers are chosen, in rule order. -/
def capabilitiesWhere (rules : RuleSet) (chosen : Matcher → Bool) : List Capability :=
  rules.filterMap (Rule.capabilityWhere? chosen)

/-- The capabilities that one function calls for. -/
def functionCapabilities (rules : RuleSet) (f : ContractFunction) : List Capability :=
  rules.capabilitiesWhere fun matcher => matcher.accepts f.accessText

/-- The capabilities that some function of the specification calls for. -/
def capabilities (rules : RuleSet) (s : Spec) : List Capability :=
  rules.capabilitiesWhere fun matcher => s.functions.any fun f => matcher.accepts f.accessText

/-- The guard of a precondition, from the first rule that accepts it. -/
def guard? (rules : RuleSet) (condition : Text) : Option Text :=
  rules.findSome? (Rule.guardOf? (lower condition))

/-- The hints for a function name, from the first rule for that name. -/
def hints (rules : RuleSet) (name : Text) : List Text :=
  (rules.findSome? (Rule.hintsOf? name)).getD []

/-- The capability of contracts that have an owner. -/
def ownable : Capability where
  importLine := "import \"@openzeppelin/contracts/access/Ownable.sol\";"
  base := "Ownable"
  modifier := "onlyOwner"

/-- The rules in force where no others are given. -/
def standard : RuleSet :=
  [.capability ⟨["owner"], []⟩ ownable,
   .guard ⟨["caller must be", "owner"], []⟩ "// require(msg.sender == owner(), \"Not owner\");",
   .guard ⟨["balance", ">="], []⟩
     "// require(balances[msg.sender] >= amount, \"Insufficient balance\");",
   .guard ⟨["address"], ["!= 0x0", "!= zero", "!= address(0)"]⟩
     "// require(to != address(0), \"Invalid address\");",
   .hint "mint" ["// _mint(to, amount);"],
   .hint "transfer" ["// _transfer(msg.sender, to, amount);"],
   .hint "approve" ["// _approve(msg.sender, spender, amount);"],
   .hint "transferFrom"
     ["// _spendAllowance(from, msg.sender, amount);", "// _transfer(from, to, amount);"]]

end RuleSet

end ContractScaffold
