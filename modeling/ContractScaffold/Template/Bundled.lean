/-
The templates at hand where no directory of templates is given: a token of the
`erc20` family and a vault. Every line ends in a line feed.

* `erc20Source`, `vaultSource`: the texts of the templates.
-/
import ContractScaffold.Text.Basic

namespace ContractScaffold

namespace Template

/-- The lines with a line feed after each. -/
def sourceOf (ls : List String) : Text :=
  ls.flatMap fun l => l.toList ++ ['\n']

/-- The lines of the token template. -/
def erc20Lines : List String :=
  ["// SPDX-License-Identifier: MIT",
   "pragma solidity ^0.8.20;",
   "",
   "// \x7b\x7bIMPORTS\x7d\x7d",
   "",
   "/**",
   " * @title \x7b\x7bCONTRACT_NAME\x7d\x7d",
   " * @notice Generated by ChainSpec from a markdown specification",
   " */",
   "contract \x7b\x7bCONTRACT_NAME\x7d\x7d is \x7b\x7bINHERITANCE\x7d\x7d \x7b",
   "    // \x7b\x7bSTATE_VARIABLES\x7d\x7d",
   "",
   "    // \x7b\x7bEVENTS\x7d\x7d",
   "",
   "    constructor(\x7b\x7bCONSTRUCTOR_ARGS\x7d\x7d) \x7b\x7bCONSTRUCTOR_INHERITANCE\x7d\x7d \x7b",
   "        // \x7b\x7bCONSTRUCTOR_LOGIC\x7d\x7d",
   "    \x7d",
   "",
   "    // \x7b\x7bFUNCTIONS\x7d\x7d",
   "",
   "    // \x7b\x7bOVERRIDES\x7d\x7d",
   "\x7d"]

/-- The lines of the vault template. -/
def vaultLines : List String :=
  ["// SPDX-License-Identifier: MIT",
   "pragma solidity ^0.8.20;",
   "",
   "// \x7b\x7bIMPORTS\x7d\x7d",
   "import \"@openzeppelin/contracts/token/ERC20/IERC20.sol\";",
   "import \"@openzeppelin/contracts/token/ERC20/utils/SafeERC20.sol\";",
   "",
   "/**",
   " * @title \x7b\x7bCONTRACT_NAME\x7d\x7d",
   " * @notice Generated by ChainSpec from a markdown specification",
   " */",
   "contract \x7b\x7bCONTRACT_NAME\x7d\x7d is \x7b\x7bINHERITANCE\x7d\x7d \x7b",
   "    using SafeERC20 for IERC20;",
   "",
   "    // \x7b\x7bROLES_DEFINITION\x7d\x7d",
   "",
   "    IERC20 public immutable asset;",
   "    mapping(address => uint256) public balances;",
   "    uint256 public totalDeposits;",
   "    uint256 public withdrawalDelay;",
   "    mapping(address => uint256) public lastDeposit;",
   "",
   "    // \x7b\x7bSTATE_VARIABLES\x7d\x7d",
   "",
   "    event Deposited(address indexed account, uint256 amount);",
   "    event Withdrawn(address indexed account, uint256 amount);",
   "",
   "    // \x7b\x7bEVENTS\x7d\x7d",
   "",
   "    constructor(address _asset, address _admin, uint256 _withdrawalDelay) \x7b\x7bCONSTRUCTOR_INHERITANCE\x7d\x7d \x7b",
   "        require(_asset != address(0), \"Invalid asset\");",
   "        require(_admin != address(0), \"Invalid admin\");",
   "",
   "        asset = IERC20(_asset);",
   "        withdrawalDelay = _withdrawalDelay;",
   "        _grantRole(DEFAULT_ADMIN_ROLE, _admin);",
   "",
   "        // \x7b\x7bCONSTRUCTOR_LOGIC\x7d\x7d",
   "    \x7d",
   "",
   "    function deposit(uint256 amount) external nonReentrant whenNotPaused \x7b",
   "        require(amount > 0, \"Amount must be positive\");",
   "",
   "        // \x7b\x7bDEPOSIT_HOOKS\x7d\x7d",
   "",
   "        asset.safeTransferFrom(msg.sender, address(this), amount);",
   "        balances[msg.sender] += amount;",
   "        totalDeposits += amount;",
   "        lastDeposit[msg.sender] = block.timestamp;",
   "",
   "        emit Deposited(msg.sender, amount);",
   "    \x7d",
   "",
   "    function withdraw(uint256 amount) external nonReentrant whenNotPaused \x7b",
   "        require(amount > 0, \"Amount must be positive\");",
   "        require(balances[msg.sender] >= amount, \"Insufficient balance\");",
   "        require(block.timestamp >= lastDeposit[msg.sender] + withdrawalDelay, \"Withdrawal locked\");",
   "",
   "        // \x7b\x7bTIMELOCK_CHECK\x7d\x7d",
   "",
   "        balances[msg.sender] -= amount;",
   "        totalDeposits -= amount;",
   "        asset.safeTransfer(msg.sender, amount);",
   "",
   "        emit Withdrawn(msg.sender, amount);",
   "    \x7d",
   "",
   "    function pause() external onlyRole(DEFAULT_ADMIN_ROLE) \x7b",
   "        _pause();",
   "    \x7d",
   "",
   "    function unpause() external onlyRole(DEFAULT_ADMIN_ROLE) \x7b",
   "        _unpause();",
   "    \x7d",
   "",
   "    // \x7b\x7bFUNCTIONS\x7d\x7d",
   "",
   "    // \x7b\x7bOVERRIDES\x7d\x7d",
   "\x7d"]

/-- The text of the token template. -/
def erc20Source : Text :=
  sourceOf erc20Lines

/-- The text of the vault template. -/
def vaultSource : Text :=
  sourceOf vaultLines

end Template

end ContractScaffold
