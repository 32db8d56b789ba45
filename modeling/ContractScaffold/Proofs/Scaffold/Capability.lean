/-
Capabilities in a generated source: what the imports, the base contracts and the
declarations of functions say of them, each on its own, fits together.

* `RuleSet.mem_capabilities_iff`: a rule calls for a capability of the specification
  where it calls for one of a function.
* `RuleSet.functionCapabilities_sublist`: the capabilities of a function are among those
  of the specification, in the same order.
* `ContractFunction.mentionsOwner`, `RuleSet.functionCapabilities_standard`: the functions
  that the standard rules restrict.
* `declaration_infix_functionsText`: the declaration of an emitted function stands in the
  text of the functions.
* `capabilities_wired`: imports, base contracts and modifiers agree.
-/
import ContractScaffold.Scaffold
import ContractScaffold.Proofs.Rule
import ContractScaffold.Proofs.Text.Occurs

namespace ContractScaffold

open Text
open scoped List

/-! ### Rules one by one -/

/-- What is chosen of a list in steps that a second choice takes as well is chosen by the
second one too, in the same order. -/
lemma filterMap_sublist_filterMap {α β : Type*} {choose choose' : α → Option β} {xs : List α}
    (h : ∀ x ∈ xs, ∀ y, choose x = some y → choose' x = some y) :
    xs.filterMap choose <+ xs.filterMap choose' := by
  induction xs with
  | nil => exact List.Sublist.refl _
  | cons x xs ih =>
      have ih := ih fun z hz => h z (List.mem_cons_of_mem x hz)
      cases hx : choose x with
      | none =>
          rw [List.filterMap_cons_none hx]
          exact ih.trans ((List.sublist_cons_self x xs).filterMap choose')
      | some y =>
          rw [List.filterMap_cons_some hx, List.filterMap_cons_some (h x (by simp) y hx)]
          exact ih.cons_cons y

namespace RuleSet

variable {rules : RuleSet} {s : Spec} {f : ContractFunction} {c : Capability}

/-- The capabilities that rules give, rule by rule. -/
lemma capabilitiesWhere_eq_flatMap (rules : RuleSet) (chosen : Matcher → Bool) :
    rules.capabilitiesWhere chosen = rules.flatMap fun rule => capabilitiesWhere [rule] chosen := by
  induction rules with
  | nil => rfl
  | cons rule rules ih =>
      rw [List.flatMap_cons, ← ih]
      exact List.filterMap_append (l := [rule])

/-- A rule calls for a capability of the specification exactly where it calls for it for
the sake of some function. -/
lemma mem_capabilities_iff :
    c ∈ rules.capabilities s ↔ ∃ f ∈ s.functions, c ∈ rules.functionCapabilities f := by
  simp only [capabilities, functionCapabilities, capabilitiesWhere, List.mem_filterMap,
    Rule.capabilityWhere?_eq_some_iff, List.any_eq_true]
  constructor
  · rintro ⟨rule, hrule, matcher, rfl, f, hf, haccepts⟩
    exact ⟨f, hf, _, hrule, matcher, rfl, haccepts⟩
  · rintro ⟨f, hf, rule, hrule, matcher, rfl, haccepts⟩
    exact ⟨_, hrule, matcher, rfl, f, hf, haccepts⟩

/-- The capabilities of a function are those of the specification that it calls for, in
the same order. -/
lemma functionCapabilities_sublist (hf : f ∈ s.functions) :
    rules.functionCapabilities f <+ rules.capabilities s := by
  refine filterMap_sublist_filterMap fun rule _ c hc => ?_
  rw [Rule.capabilityWhere?_eq_some_iff] at hc ⊢
  obtain ⟨matcher, rfl, haccepts⟩ := hc
  exact ⟨matcher, rfl, List.any_eq_true.mpr ⟨f, hf, haccepts⟩⟩

end RuleSet

/-! ### The standard rules -/

namespace ContractFunction

/-- Whether a function speaks of an owner, in its security note or in one of its
preconditions, in any letter case. -/
def mentionsOwner (f : ContractFunction) : Bool :=
  occursIn "owner" (lower f.security) ||
    f.preconditions.any fun condition => occursIn "owner" (lower condition)

/-- No word runs over the end of a line of the access text. -/
lemma occursIn_accessText {word : Text} (hword : '\n' ∉ word) (f : ContractFunction) :
    occursIn word f.accessText = (occursIn word (lower f.security) ||
      f.preconditions.any fun condition => occursIn word (lower condition)) := by
  rw [Bool.eq_iff_iff, Bool.or_eq_true, List.any_eq_true, occursIn_iff, occursIn_iff, accessText,
    infix_append_flatMap_iff hword]
  simp only [occursIn_iff]

end ContractFunction

namespace RuleSet

/-- The only capability of the standard rules is the owner's. -/
lemma capabilitiesWhere_standard (chosen : Matcher → Bool) :
    standard.capabilitiesWhere chosen = if chosen ⟨["owner"], []⟩ then [ownable] else [] := by
  have hstandard : standard.capabilitiesWhere chosen
      = [Rule.capability ⟨["owner"], []⟩ ownable].filterMap (Rule.capabilityWhere? chosen) := rfl
  rw [hstandard]
  simp only [List.filterMap_cons, List.filterMap_nil, Rule.capabilityWhere?]
  split_ifs <;> rfl

/-- The keyword of the owner's capability is looked for in every part of the access text. -/
lemma accepts_owner (f : ContractFunction) :
    Matcher.accepts ⟨["owner"], []⟩ f.accessText = f.mentionsOwner := by
  have hword : '\n' ∉ ("owner" : Text) := by decide
  rw [ContractFunction.mentionsOwner, ← ContractFunction.occursIn_accessText hword]
  simp [Matcher.accepts]

/-- The standard rules restrict the functions that speak of an owner. -/
lemma functionCapabilities_standard (f : ContractFunction) :
    standard.functionCapabilities f = if f.mentionsOwner then [ownable] else [] := by
  rw [functionCapabilities, capabilitiesWhere_standard, accepts_owner]

/-- The standard rules bring an owner in where some function speaks of one. -/
lemma capabilities_standard (s : Spec) : standard.capabilities s
    = if ∃ f ∈ s.functions, f.mentionsOwner = true then [ownable] else [] := by
  rw [capabilities, capabilitiesWhere_standard]
  simp only [accepts_owner, List.any_eq_true]

end RuleSet

/-! ### The texts of a source -/

namespace Scaffold

/-- The declaration of a function that is restricted by capabilities. -/
def declaration (f : ContractFunction) (capabilities : List Capability) : Text :=
  "function " ++ f.name ++ "(" ++ f.parameterList ++ ") public" ++
    capabilities.flatMap (fun c => ' ' :: c.modifier) ++ returnsClause f.returns

/-- The line that declares a function stands in the text of that function. -/
lemma declaration_infix_functionText (rules : RuleSet) (f : ContractFunction) :
    declaration f (rules.functionCapabilities f) ++ (" \x7b\n" : Text)
      <:+: functionText rules f := by
  refine ⟨docBlock f ++ memberBreak, body rules f ++ "\n    \x7d", ?_⟩
  rw [functionText]
  simp only [List.append_assoc]
  rfl

/-- The declaration of an emitted function stands in the text of the functions. -/
lemma declaration_infix_functionsText {family : Family} (rules : RuleSet)
    {functions : List ContractFunction} {f : ContractFunction}
    (hf : f ∈ customFunctions family functions) :
    declaration f (rules.functionCapabilities f) ++ (" \x7b\n" : Text)
      <:+: functionsText family rules functions := by
  have hcustom : functionsText family rules functions
      = joinWith "\n\n    " ((customFunctions family functions).map (functionText rules)) := by
    have hfunctions : functions ≠ [] := by rintro rfl; simp [customFunctions] at hf
    have hemitted := List.ne_nil_of_mem hf
    rw [functionsText, if_neg (by simpa using hfunctions)]
    split
    · next hnil => exact absurd hnil hemitted
    · rfl
  rw [hcustom]
  exact (declaration_infix_functionText rules f).trans (infix_joinWith (List.mem_map_of_mem hf))

/-- **Capabilities are wired consistently**, for all rules, specifications and families.
Rule by rule, and in rule order, a capability is called for by the specification where it
is called for by one of its functions. Behind those of the family, the imports and the
base contracts are those of the capabilities of the specification; and the declaration of
every emitted function has the modifiers of its own capabilities, which are some of these
in the same order. By the standard rules the owner's capability, which no family has of
its own, is there where a function speaks of an owner. -/
theorem capabilities_wired (family : Family) (rules : RuleSet) (s : Spec) :
    ((∀ rule c, c ∈ RuleSet.capabilities [rule] s ↔
          ∃ f ∈ s.functions, c ∈ RuleSet.functionCapabilities [rule] f)
        ∧ (rules.capabilities s = rules.flatMap fun rule => RuleSet.capabilities [rule] s)
        ∧ ∀ f, rules.functionCapabilities f
          = rules.flatMap fun rule => RuleSet.functionCapabilities [rule] f)
      ∧ (tokens family rules s).lookup ("IMPORTS" : Text) = some (joinWith "\n"
          (family.baseImports ++ (rules.capabilities s).map Capability.importLine))
      ∧ (tokens family rules s).lookup ("INHERITANCE" : Text) = some (joinWith ", "
          (family.baseContracts ++ (rules.capabilities s).map Capability.base))
      ∧ (∃ functions, (tokens family rules s).lookup ("FUNCTIONS" : Text) = some functions
          ∧ ∀ f ∈ customFunctions family s.functions,
            rules.functionCapabilities f <+ rules.capabilities s
              ∧ declaration f (rules.functionCapabilities f) ++ (" \x7b\n" : Text) <:+: functions)
      ∧ RuleSet.ownable.importLine ∉ family.baseImports
      ∧ RuleSet.ownable.base ∉ family.baseContracts
      ∧ (RuleSet.standard.capabilities s
          = if ∃ f ∈ s.functions, f.mentionsOwner = true then [RuleSet.ownable] else [])
      ∧ ∀ f, RuleSet.standard.functionCapabilities f
          = if f.mentionsOwner then [RuleSet.ownable] else [] := by
  have hemitted : ∀ f ∈ customFunctions family s.functions, f ∈ s.functions :=
    fun f hf => List.mem_of_mem_filter hf
  refine ⟨⟨fun rule c => RuleSet.mem_capabilities_iff, RuleSet.capabilitiesWhere_eq_flatMap rules _,
    fun f => RuleSet.capabilitiesWhere_eq_flatMap rules _⟩, rfl, rfl, ⟨_, rfl, fun f hf =>
    ⟨RuleSet.functionCapabilities_sublist (hemitted f hf),
      declaration_infix_functionsText rules hf⟩⟩,
    ?_, ?_, RuleSet.capabilities_standard s, RuleSet.functionCapabilities_standard⟩
  · cases family <;> decide
  · cases family <;> decide

/-- A precondition in capitals restricts the one function of a vault that is emitted. -/
theorem capabilities_wired_pay :
    ⟨"pay", [], [], ["By the OWNER"], [], [], [], []⟩ ∈ customFunctions .vault
        [⟨"Deposit", [], [], [], [], "owner", [], []⟩,
          ⟨"pay", [], [], ["By the OWNER"], [], [], [], []⟩]
      ∧ ∃ functions, (tokens .vault RuleSet.standard ⟨"V", [],
            [⟨"Deposit", [], [], [], [], "owner", [], []⟩,
              ⟨"pay", [], [], ["By the OWNER"], [], [], [], []⟩], [], [], []⟩).lookup
            ("FUNCTIONS" : Text) = some functions
          ∧ ("function pay() public onlyOwner \x7b\n" : Text) <:+: functions := by
  have hmem : ⟨"pay", [], [], ["By the OWNER"], [], [], [], []⟩ ∈ customFunctions .vault
      [⟨"Deposit", [], [], [], [], "owner", [], []⟩,
        ⟨"pay", [], [], ["By the OWNER"], [], [], [], []⟩] := by decide
  have hdeclaration : declaration ⟨"pay", [], [], ["By the OWNER"], [], [], [], []⟩
      (RuleSet.standard.functionCapabilities ⟨"pay", [], [], ["By the OWNER"], [], [], [], []⟩)
      ++ (" \x7b\n" : Text) = "function pay() public onlyOwner \x7b\n" := by decide
  obtain ⟨functions, hfunctions, hwired⟩ := (capabilities_wired .vault RuleSet.standard ⟨"V", [],
    [⟨"Deposit", [], [], [], [], "owner", [], []⟩,
      ⟨"pay", [], [], ["By the OWNER"], [], [], [], []⟩], [], [], []⟩).2.2.2.1
  have hinfix := (hwired _ hmem).2
  rw [hdeclaration] at hinfix
  exact ⟨hmem, functions, hfunctions, hinfix⟩

end Scaffold

end ContractScaffold
