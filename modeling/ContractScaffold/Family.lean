/-
Template families: what the contracts of a family inherit or declare already, so
that a scaffold neither declares a member twice nor leaves the base contracts
unwired.

* `Family`, `Family.ofTemplate`: the families, and the one of a template name.
* `Family.tokens`, `Family.extraTokens`: the placeholders that a family fills,
  and those with a fixed text.
* `Family.baseImports`, `Family.baseContracts`, `Family.baseConstructor?`: the
  wiring of the base contracts.
* `Family.providedStateVariables`, `Family.providedEvents`,
  `Family.providesFunction`: the members that need no declaration.
-/
import ContractScaffold.Text.Lower

namespace ContractScaffold

open Text

/-- The families of templates. -/
inductive Family where
  | erc20
  | vault
  deriving DecidableEq, Repr

/-- The call of the base contract in a constructor, with the literals that stand
for a token's name and symbol where the constructor takes neither. -/
structure BaseConstructor where
  contract : Text
  defaultName : Text
  defaultSymbol : Text
  deriving DecidableEq, Repr

/-- The name of the bundled token template. -/
def erc20Template : Text := "ERC20_Template"

/-- The name of the bundled vault template. -/
def vaultTemplate : Text := "DAOVault_Template"

/-- The word that a vault's name holds. -/
def vaultWord : Text := "vault"

/-- Whether a name is that of a vault, in any letter case. -/
def namesVault (name : Text) : Bool :=
  occursIn vaultWord (lower name)

namespace Family

/-- The family of a template, by its name. -/
def ofTemplate (name : Text) : Family :=
  if namesVault name then vault else erc20

/-- The family's word in comments of a scaffold. -/
def label : Family → Text
  | erc20 => "ERC20"
  | vault => "vault"

/-- The placeholders that every family fills. -/
def commonTokens : List Text :=
  ["CONTRACT_NAME", "IMPORTS", "INHERITANCE", "STATE_VARIABLES", "EVENTS", "CONSTRUCTOR_ARGS",
   "CONSTRUCTOR_INHERITANCE", "CONSTRUCTOR_LOGIC", "FUNCTIONS", "OVERRIDES"]

/-- The placeholders of the family with a text that no specification changes. -/
def extraTokens : Family → List (Text × Text)
  | erc20 => []
  | vault =>
    [("ROLES_DEFINITION",
      "bytes32 public constant STRATEGIST_ROLE = keccak256(\"STRATEGIST_ROLE\");"),
     ("DEPOSIT_HOOKS", "// Custom deposit hooks"),
     ("TIMELOCK_CHECK", "// Custom timelock check")]

/-- The placeholders that the family fills. -/
def tokens (family : Family) : List Text :=
  commonTokens ++ family.extraTokens.map Prod.fst

/-- The import lines of the family. -/
def baseImports : Family → List Text
  | erc20 => ["import \"@openzeppelin/contracts/token/ERC20/ERC20.sol\";"]
  | vault =>
    ["import \"@openzeppelin/contracts/access/AccessControl.sol\";",
     "import \"@openzeppelin/contracts/security/Pausable.sol\";",
     "import \"@openzeppelin/contracts/security/ReentrancyGuard.sol\";"]

/-- The base contracts of the family. -/
def baseContracts : Family → List Text
  | erc20 => ["ERC20"]
  | vault => ["AccessControl", "Pausable", "ReentrancyGuard"]

/-- The base contract whose constructor takes arguments. -/
def baseConstructor? : Family → Option BaseConstructor
  | erc20 => some ⟨"ERC20", "\"DefaultToken\"", "\"DFT\""⟩
  | vault => none

/-- The state variables that the template or its bases declare. -/
def providedStateVariables : Family → List Text
  | erc20 => ["balances", "allowances", "totalSupply", "name", "symbol"]
  | vault => ["asset", "balances", "totalDeposits", "withdrawalDelay", "lastDeposit"]

/-- The events that the template or its bases declare. -/
def providedEvents : Family → List Text
  | erc20 => ["Transfer", "Approval"]
  | vault => ["Deposited", "Withdrawn", "Paused", "Unpaused"]

/-- The functions that the template or its bases implement, in small letters. -/
def providedFunctions : Family → List Text
  | erc20 => ["constructor", "transfer", "approve", "transferfrom", "balanceof", "allowance"]
  | vault => ["constructor", "deposit", "withdraw", "pause", "unpause"]

/-- Whether the function of that name, in any letter case, is implemented
already. -/
def providesFunction (family : Family) (name : Text) : Bool :=
  family.providedFunctions.elem (lower name)

end Family

end ContractScaffold
