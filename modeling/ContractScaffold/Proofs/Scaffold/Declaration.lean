/-
The declarations of state variables, word by word. A declaration adds the word `public`. A
mapping loses it from its type first, wherever it stands in the text of the type; every other type
is written as it is.

* `variableDeclaration`: a line without its comment; `words_variableDeclaration` gives its words.
* `typeWords`: the words that are left of a type.
* `LosesOnlyPublic`, `typeWords_eq_iff`: the types that lose the word `public` and nothing else.
* `declarations_written`: every declaration of a source, and which of them keep their type.
* `doubledText`, `declarations_doubledText`: a document whose declarations do not.
-/
import ContractScaffold.Proofs.Scaffold.Members

namespace ContractScaffold

open Text

namespace Scaffold

/-! ### The words of a declaration -/

/-- The word that a declaration adds to the type. -/
def publicWord : Text := "public"

lemma isWord_publicWord : IsWord publicWord := by
  have hchars : publicWord.all isWordChar = true := by decide
  exact ⟨by decide, fun c hc => isBlank_of_isWordChar (List.all_eq_true.mp hchars c hc)⟩

/-- A type that is written as a mapping is. -/
def isMapping (type : Text) : Bool :=
  occursIn "mapping" type || occursIn "=>" type

/-- The words that a declaration writes for a type. -/
def typeWords (type : Text) : List Text :=
  if isMapping type then ((words type).map (without publicWord)).filter fun w => !w.isEmpty
  else words type

/-- The declaration of a state variable without its comment. -/
def variableDeclaration (v : StateVariable) : Text :=
  declaredType v.type ++ " public " ++ v.name

lemma stateVariableLine_eq (v : StateVariable) :
    stateVariableLine v = variableDeclaration v ++ "; // " ++ v.description := rfl

lemma words_declaredType (type : Text) : words (declaredType type) = typeWords type := by
  have hdeclared : declaredType type =
      if isMapping type then trim (without publicWord type) else type := rfl
  rw [hdeclared, typeWords]
  split_ifs
  · rw [words_trim, words_without isWord_publicWord]
  · rfl

/-- **The words of a declaration**: those that are left of the type, `public` and the name. -/
lemma words_variableDeclaration {v : StateVariable} (hname : IsWord v.name) :
    words (variableDeclaration v) = typeWords v.type ++ [publicWord, v.name] := by
  have hline : variableDeclaration v =
      declaredType v.type ++ ' ' :: (publicWord ++ ' ' :: v.name) := by
    simp [variableDeclaration, publicWord]
  rw [hline, words_append_blank isBlank_space, words_append_blank isBlank_space,
    words_declaredType, words_of_isWord isWord_publicWord, words_of_isWord hname]
  rfl

/-! ### What is left of a type -/

/-- A type that loses the word `public` and nothing else: as a mapping, it has that text in no
longer word, and as any other type it does not have the word. -/
def LosesOnlyPublic (type : Text) : Prop :=
  if isMapping type then ∀ w ∈ words type, publicWord <:+: w → w = publicWord
  else publicWord ∉ words type

/-- Inside of words, at least as much is left out as whole words are; exactly as much only where
nothing else is left out. -/
lemma length_flatten_without {part : Text} (hne : part ≠ []) (ws : List Text) :
    (ws.map (without part)).flatten.length ≤ (ws.filter (· != part)).flatten.length ∧
      ((ws.map (without part)).flatten.length = (ws.filter (· != part)).flatten.length →
        ∀ w ∈ ws, part <:+: w → w = part) := by
  induction ws with
  | nil => simp
  | cons w ws ih =>
      obtain ⟨hle, heq⟩ := ih
      rw [List.map_cons, List.flatten_cons, List.length_append]
      by_cases hw : w = part
      · rw [List.filter_cons_of_neg (by simp [hw]), hw, without_self, List.length_nil, Nat.zero_add]
        exact ⟨hle, fun h => List.forall_mem_cons.mpr ⟨fun _ => rfl, heq h⟩⟩
      · rw [List.filter_cons_of_pos (by simp [hw]), List.flatten_cons, List.length_append]
        by_cases hpart : part <:+: w
        · have hlt := length_without_lt hne hpart
          exact ⟨by omega, fun h => by omega⟩
        · rw [without_eq_self hpart]
          refine ⟨by omega, fun h => List.forall_mem_cons.mpr ⟨fun h => absurd h hpart, heq ?_⟩⟩
          omega

/-- Where no longer word has it in it, a word is left out as a whole or not at all. -/
lemma filter_map_without {part : Text} {ws : List Text} (hws : ∀ w ∈ ws, IsWord w)
    (hpart : ∀ w ∈ ws, part <:+: w → w = part) :
    (ws.map (without part)).filter (fun w => !w.isEmpty) = ws.filter (· != part) := by
  induction ws with
  | nil => rfl
  | cons w ws ih =>
      obtain ⟨hw, hws⟩ := List.forall_mem_cons.mp hws
      obtain ⟨hwpart, hpart⟩ := List.forall_mem_cons.mp hpart
      rw [List.map_cons]
      by_cases heq : w = part
      · rw [heq, without_self, List.filter_cons_of_neg (by simp), List.filter_cons_of_neg (by simp),
          ih hws hpart]
      · rw [without_eq_self (mt hwpart heq), List.filter_cons_of_pos (by simpa using hw.ne_nil),
          List.filter_cons_of_pos (by simpa using heq), ih hws hpart]

lemma filter_map_without_iff {part : Text} (hne : part ≠ []) {ws : List Text}
    (hws : ∀ w ∈ ws, IsWord w) :
    (ws.map (without part)).filter (fun w => !w.isEmpty) = ws.filter (· != part) ↔
      ∀ w ∈ ws, part <:+: w → w = part := by
  refine ⟨fun h => (length_flatten_without hne ws).2 ?_, filter_map_without hws⟩
  rw [← h, List.flatten_filter_not_isEmpty]

/-- **The word `public` is all that a type loses** exactly where it loses only that. -/
lemma typeWords_eq_iff (type : Text) :
    typeWords type = (words type).filter (· != publicWord) ↔ LosesOnlyPublic type := by
  rw [typeWords, LosesOnlyPublic]
  split_ifs
  · exact filter_map_without_iff isWord_publicWord.ne_nil fun _ hw => isWord_of_mem_words hw
  · rw [eq_comm, List.filter_eq_self]
    constructor
    · intro h hmem
      simpa using h _ hmem
    · intro h w hw
      have hne : w ≠ publicWord := fun heq => h (heq ▸ hw)
      simpa using hne

/-- How often `public` stands in a declaration as a word. -/
lemma count_variableDeclaration {v : StateVariable} (hname : IsWord v.name) :
    (words (variableDeclaration v)).count publicWord = 1 ↔
      publicWord ∉ typeWords v.type ∧ v.name ≠ publicWord := by
  rw [words_variableDeclaration hname, List.count_append, List.count_cons_self, List.count_cons,
    List.count_nil, ← List.count_eq_zero]
  by_cases hsame : v.name = publicWord
  · simp [hsame]
  · simp [hsame]

/-! ### The declarations of a source -/

/-- **Every declaration of a state variable adds `public` and the name to what is left of the
type.** For every text and family, the lines of the state variables are those of the variables
that the family does not provide, a description behind each. Before it stand the words that are
left of the type, the word `public` and the name. These are the words of the type without `public`
exactly for a mapping that has that text in no longer word, and for any other type without it; and
`public` stands there once exactly where it is neither left in the type nor the name. -/
theorem declarations_written (t : Text) (family : Family) :
    let custom := (Spec.ofText t).stateVariables.filter fun v =>
      !family.providedStateVariables.elem v.name
    AreMembers (custom.map fun v => variableDeclaration v ++ "; // " ++ v.description)
        (stateVariablesText family (Spec.ofText t).stateVariables) ∧
      ∀ v ∈ custom, words (variableDeclaration v) = typeWords v.type ++ [publicWord, v.name] ∧
        (words (variableDeclaration v) =
            (words v.type).filter (· != publicWord) ++ [publicWord, v.name] ↔
          LosesOnlyPublic v.type) ∧
        ((words (variableDeclaration v)).count publicWord = 1 ↔
          publicWord ∉ typeWords v.type ∧ v.name ≠ publicWord) := by
  intro custom
  have hnormal : (Spec.ofText t).IsNormal :=
    Spec.isNormal_ofDocument fun _ hx => Document.newline_notMem_heading hx
  have hlines := areMembers_stateVariablesText t family
  rw [funext stateVariableLine_eq] at hlines
  refine ⟨hlines, fun v hv => ?_⟩
  have hname : IsWord v.name := (hnormal.stateVariables v (List.mem_of_mem_filter hv)).name
  have hwords := words_variableDeclaration hname
  refine ⟨hwords, ?_, count_variableDeclaration hname⟩
  rw [hwords, List.append_left_inj, typeWords_eq_iff]

/-- A document with state variables whose types have the text `public` in them. -/
def doubledText : Text :=
  "## State Variables\n- \x60uint256 public cap\x60 - Supply cap\n" ++
    "- \x60mapping(address => publicKey) keys\x60 - Keys"

/-- **A type that is no mapping keeps its own `public`**, and a mapping loses that text out of its
longer words: neither declaration has the words of its type without `public`. -/
theorem declarations_doubledText :
    stateVariablesText .erc20 (Spec.ofText doubledText).stateVariables =
        "uint256 public public cap; // Supply cap\n" ++
          "    mapping(address => Key) public keys; // Keys" ∧
      ∀ v ∈ (Spec.ofText doubledText).stateVariables, words (variableDeclaration v) ≠
        (words v.type).filter (· != publicWord) ++ [publicWord, v.name] := by
  decide

end Scaffold

end ContractScaffold
