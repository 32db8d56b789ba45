/-
Rules: where the texts that a rule set gives come from.

* `Rule.capabilityWhere?_eq_some_iff`, `Rule.guardOf?_eq_some_iff`, `Rule.hintsOf?_eq_some_iff`:
  what a single rule gives, and when.
* `RuleSet.exists_capability`, `RuleSet.exists_guard`, `RuleSet.exists_hint`: everything that a
  rule set gives is given by one of its rules.
* `Rule.texts`: the texts that a rule adds to a function.
* `RuleSet.guard?_append`, `RuleSet.hints_append`, `RuleSet.capabilitiesWhere_append`: what two
  lists of rules give, one behind the other. A search ends in the first list if it finds something
  there, which for hints is a rule, with statements or without; capabilities add up.
-/
import Mathlib
import ContractScaffold.Rule

namespace ContractScaffold

open Text

/-! ### Single rules -/

namespace Rule

variable {rule : Rule}

/-- A rule gives its capability where its matcher is chosen. -/
lemma capabilityWhere?_eq_some_iff {chosen : Matcher → Bool} {c : Capability} :
    rule.capabilityWhere? chosen = some c ↔
      ∃ matcher, rule = capability matcher c ∧ chosen matcher = true := by
  cases rule with
  | capability matcher d =>
      simp only [capabilityWhere?, capability.injEq]
      constructor
      · intro h
        split_ifs at h with hchosen
        exact ⟨matcher, ⟨rfl, Option.some.inj h⟩, hchosen⟩
      · rintro ⟨m, ⟨rfl, rfl⟩, hchosen⟩
        exact if_pos hchosen
  | guard matcher statement => simp [capabilityWhere?]
  | hint function statements => simp [capabilityWhere?]

/-- A rule gives its statement where its matcher accepts the condition. -/
lemma guardOf?_eq_some_iff {condition statement : Text} :
    rule.guardOf? condition = some statement ↔
      ∃ matcher, rule = guard matcher statement ∧ matcher.accepts condition = true := by
  cases rule with
  | capability matcher c => simp [guardOf?]
  | guard matcher s =>
      simp only [guardOf?, guard.injEq]
      constructor
      · intro h
        split_ifs at h with haccepts
        exact ⟨matcher, ⟨rfl, Option.some.inj h⟩, haccepts⟩
      · rintro ⟨m, ⟨rfl, rfl⟩, haccepts⟩
        exact if_pos haccepts
  | hint function statements => simp [guardOf?]

/-- A rule gives its statements for the name that it is for. -/
lemma hintsOf?_eq_some_iff {name : Text} {statements : List Text} :
    rule.hintsOf? name = some statements ↔
      ∃ function, rule = hint function statements ∧ sameLetters function name = true := by
  cases rule with
  | capability matcher c => simp [hintsOf?]
  | guard matcher s => simp [hintsOf?]
  | hint function ss =>
      simp only [hintsOf?, hint.injEq]
      constructor
      · intro h
        split_ifs at h with hname
        exact ⟨function, ⟨rfl, Option.some.inj h⟩, hname⟩
      · rintro ⟨f, ⟨rfl, rfl⟩, hname⟩
        exact if_pos hname

/-- A rule that has the hints for a function name, be they none. -/
def IsHintFor (name : Text) : Rule → Prop
  | hint function _ => sameLetters function name = true
  | _ => False

instance (name : Text) : (rule : Rule) → Decidable (rule.IsHintFor name)
  | capability .. => isFalse id
  | guard .. => isFalse id
  | hint function _ => inferInstanceAs (Decidable (sameLetters function name = true))

/-- It is found by the search for them. -/
lemma isSome_hintsOf?_iff {name : Text} :
    (rule.hintsOf? name).isSome = true ↔ rule.IsHintFor name := by
  cases rule with
  | capability matcher c => simp [hintsOf?, IsHintFor]
  | guard matcher s => simp [hintsOf?, IsHintFor]
  | hint function ss =>
      by_cases h : sameLetters function name = true <;> simp [hintsOf?, IsHintFor, h]

/-- The texts that a rule adds to a function. -/
def texts : Rule → List Text
  | capability _ c => [c.modifier]
  | guard _ statement => [statement]
  | hint _ statements => statements

end Rule

/-! ### Rule sets -/

namespace RuleSet

variable {rules : RuleSet}

/-- Every capability is that of a rule. -/
lemma exists_capability {f : ContractFunction} {c : Capability}
    (hc : c ∈ rules.functionCapabilities f) : ∃ matcher, Rule.capability matcher c ∈ rules := by
  obtain ⟨rule, hrule, h⟩ := List.mem_filterMap.mp hc
  obtain ⟨matcher, rfl, -⟩ := Rule.capabilityWhere?_eq_some_iff.mp h
  exact ⟨matcher, hrule⟩

/-- Every guard is that of a rule. -/
lemma exists_guard {condition statement : Text} (h : rules.guard? condition = some statement) :
    ∃ matcher, Rule.guard matcher statement ∈ rules := by
  obtain ⟨rule, hrule, h⟩ := List.exists_of_findSome?_eq_some h
  obtain ⟨matcher, rfl, -⟩ := Rule.guardOf?_eq_some_iff.mp h
  exact ⟨matcher, hrule⟩

/-- Every hint is that of a rule. -/
lemma exists_hint {name statement : Text} (h : statement ∈ rules.hints name) :
    ∃ function statements, Rule.hint function statements ∈ rules ∧ statement ∈ statements := by
  rw [hints] at h
  cases hfound : rules.findSome? (Rule.hintsOf? name) with
  | none => simp [hfound] at h
  | some statements =>
      rw [hfound, Option.getD_some] at h
      obtain ⟨rule, hrule, hhint⟩ := List.exists_of_findSome?_eq_some hfound
      obtain ⟨function, rfl, -⟩ := Rule.hintsOf?_eq_some_iff.mp hhint
      exact ⟨function, statements, hrule, h⟩

/-! ### Rules behind others -/

/-- Rules added one by one stand behind the others, in order. -/
lemma foldl_add (rules later : RuleSet) : later.foldl add rules = rules ++ later := by
  induction later generalizing rules with
  | nil => exact (List.append_nil rules).symm
  | cons rule later ih =>
      rw [List.foldl_cons, ih, add, List.append_assoc, List.singleton_append]

/-- A condition has the guard that the first rules give it, or else the one of the later
rules. -/
lemma guard?_append (rules later : RuleSet) (condition : Text) :
    (rules ++ later).guard? condition = (rules.guard? condition).or (later.guard? condition) :=
  List.findSome?_append

/-- A name has the hints of the first rules where one of them has hints for it. -/
lemma hints_append (rules later : RuleSet) (name : Text) :
    (rules ++ later).hints name =
      if ∃ rule ∈ rules, rule.IsHintFor name then rules.hints name else later.hints name := by
  have hfound : (rules.findSome? (Rule.hintsOf? name)).isSome = true ↔
      ∃ rule ∈ rules, rule.IsHintFor name := by
    simp only [List.findSome?_isSome_iff, Rule.isSome_hintsOf?_iff]
  rw [hints, List.findSome?_append, hints, hints]
  cases hrules : rules.findSome? (Rule.hintsOf? name) with
  | none =>
      have hno : ¬ ∃ rule ∈ rules, rule.IsHintFor name := by simp [← hfound, hrules]
      rw [if_neg hno, Option.none_or]
  | some statements =>
      rw [if_pos (hfound.mp (by simp [hrules])), Option.some_or]

/-- The capabilities of the later rules come behind those of the first ones. -/
lemma capabilitiesWhere_append (rules later : RuleSet) (chosen : Matcher → Bool) :
    (rules ++ later).capabilitiesWhere chosen =
      rules.capabilitiesWhere chosen ++ later.capabilitiesWhere chosen :=
  List.filterMap_append

/-- The hints of the first rules are at the beginning of those of all rules. -/
lemma hints_prefix_append (rules later : RuleSet) (name : Text) :
    rules.hints name <+: (rules ++ later).hints name := by
  rw [hints_append]
  split_ifs with hsome
  · exact List.prefix_refl _
  · have hnone : rules.findSome? (Rule.hintsOf? name) = none := by
      rw [List.findSome?_eq_none_iff]
      intro rule hrule
      by_contra h
      exact hsome ⟨rule, hrule, Rule.isSome_hintsOf?_iff.mp (Option.isSome_iff_ne_none.mpr h)⟩
    rw [hints, hnone, Option.getD_none]
    exact List.nil_prefix

end RuleSet

end ContractScaffold
