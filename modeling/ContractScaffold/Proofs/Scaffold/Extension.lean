/-
Rules behind other rules: what a generated source keeps, and where it grows.

* `isPrefix_preconditionLines`, `bodyLines_sublist`: the lines of a body are all kept, in order, and
  what a later rule adds to a precondition comes behind the lines that it has.
* `signature_append`: the modifiers of later rules come behind the others.
* `importsText_append`, `inheritanceText_append`: so do imports and base contracts.
* `rules_composed`: what two lists of rules give, one behind the other, and what a source keeps of
  the first one.
-/
import ContractScaffold.Proofs.Scaffold.Lines

namespace ContractScaffold

open Text
open scoped List

namespace Scaffold

variable {rules later : RuleSet} {f : ContractFunction}

/-! ### Bodies -/

/-- A later rule guards a precondition only where no rule before it does. -/
lemma isPrefix_preconditionLines (rules later : RuleSet) (condition : Text) :
    preconditionLines rules condition <+: preconditionLines (rules ++ later) condition := by
  rw [preconditionLines, preconditionLines, RuleSet.guard?_append, List.prefix_cons_inj]
  cases rules.guard? condition with
  | none => exact List.nil_prefix
  | some statement => exact List.prefix_refl _

lemma preconditionBlock_sublist (rules later : RuleSet) (conditions : List Text) :
    preconditionBlock rules conditions <+ preconditionBlock (rules ++ later) conditions := by
  rw [preconditionBlock, preconditionBlock]
  split_ifs
  · exact List.Sublist.refl _
  · have hlines : conditions.flatMap (preconditionLines rules) <+
        conditions.flatMap (preconditionLines (rules ++ later)) :=
      List.Sublist.flatMap_right conditions fun condition _ =>
        (isPrefix_preconditionLines rules later condition).sublist
    exact (hlines.cons_cons _).append (List.Sublist.refl _)

/-- No statement of a body is lost, and none changes its place. -/
lemma bodyLines_sublist (rules later : RuleSet) (f : ContractFunction) :
    bodyLines rules f <+ bodyLines (rules ++ later) f := by
  have hpreconditions := preconditionBlock_sublist rules later f.preconditions
  have hhints := (RuleSet.hints_prefix_append rules later f.name).sublist
  exact ((hpreconditions.append (hhints.cons_cons _)).append (List.Sublist.refl _)).append
    (List.Sublist.refl _)

/-- Every line of a body is kept, of rules with statements of several lines too. -/
lemma splitOn_body_sublist (rules later : RuleSet) (f : ContractFunction) :
    (body rules f).splitOn '\n' <+ (body (rules ++ later) f).splitOn '\n' := by
  have hbody : ∀ rules, (body rules f).splitOn '\n' =
      (bodyTextLines rules f).flatMap fun l => l.splitOn '\n' := fun rules =>
    splitOn_unlines (bodyTextLines_ne_nil rules f)
  rw [hbody, hbody]
  exact ((bodyLines_sublist rules later f).map statement).flatMap _

/-! ### Lists that grow at their end -/

/-- The modifiers stand in front of what a declaration says of the returned values. -/
lemma exists_signature_eq (f : ContractFunction) : ∃ front, ∀ rules : RuleSet,
    signature rules f =
      front ++ (rules.functionCapabilities f).flatMap (fun c => ' ' :: c.modifier) ++
        returnsClause f.returns :=
  ⟨_, fun _ => rfl⟩

/-- The modifiers of later rules come behind those of the rules before them. -/
lemma signature_append (rules later : RuleSet) (f : ContractFunction) :
    ∃ front, signature rules f = front ++ returnsClause f.returns ∧
      signature (rules ++ later) f =
        front ++ (later.functionCapabilities f).flatMap (fun c => ' ' :: c.modifier) ++
          returnsClause f.returns := by
  obtain ⟨front, hfront⟩ := exists_signature_eq f
  have hcapabilities : (rules ++ later).functionCapabilities f =
      rules.functionCapabilities f ++ later.functionCapabilities f :=
    RuleSet.capabilitiesWhere_append rules later _
  refine ⟨_, hfront rules, ?_⟩
  rw [hfront, hcapabilities, List.flatMap_append, ← List.append_assoc]

/-- Every family has imports and base contracts of its own. -/
lemma family_ne_nil (family : Family) : family.baseImports ≠ [] ∧ family.baseContracts ≠ [] := by
  cases family <;> decide

lemma importsText_append (family : Family) (cs ds : List Capability) :
    importsText family (cs ++ ds) =
      importsText family cs ++ ds.flatMap fun c => '\n' :: c.importLine := by
  rw [importsText, List.map_append, ← List.append_assoc,
    joinWith_append (List.append_ne_nil_of_left_ne_nil (family_ne_nil family).1 _),
    List.flatMap_map]
  rfl

lemma inheritanceText_append (family : Family) (cs ds : List Capability) :
    inheritanceText family (cs ++ ds) =
      inheritanceText family cs ++ ds.flatMap fun c => ',' :: ' ' :: c.base := by
  rw [inheritanceText, List.map_append, ← List.append_assoc,
    joinWith_append (List.append_ne_nil_of_left_ne_nil (family_ne_nil family).2 _),
    List.flatMap_map]
  rfl

/-! ### Rules and the source that they give -/

/-- **Rules behind others change nothing that is there.** Let more rules be added to any rules, one
by one. Then a condition has the guard that the first rules give it, or else the one of the later
rules; a name has the hints of the first rules if one of them is for it, be they none, or else those
of the later rules; and capabilities are those of the first rules and then those of the later ones.

So a source keeps what the first rules put into it: a precondition keeps its guard, a function its
hints, a body every line in its order; and modifiers, imports and base contracts grow at their end
only. -/
theorem rules_composed (rules later : RuleSet) :
    let all := later.foldl RuleSet.add rules
    all = rules ++ later ∧
      (∀ condition, all.guard? condition =
        (rules.guard? condition).or (later.guard? condition)) ∧
      (∀ name, all.hints name =
        if ∃ rule ∈ rules, rule.IsHintFor name then rules.hints name else later.hints name) ∧
      (∀ f, all.functionCapabilities f =
        rules.functionCapabilities f ++ later.functionCapabilities f) ∧
      (∀ s, all.capabilities s = rules.capabilities s ++ later.capabilities s) ∧
      (∀ f : ContractFunction,
        (∀ condition, preconditionLines rules condition <+: preconditionLines all condition) ∧
        rules.hints f.name <+: all.hints f.name ∧
        (body rules f).splitOn '\n' <+ (body all f).splitOn '\n' ∧
        ∃ front, signature rules f = front ++ returnsClause f.returns ∧
          signature all f =
            front ++ (later.functionCapabilities f).flatMap (fun c => ' ' :: c.modifier) ++
              returnsClause f.returns) ∧
      ∀ family s, ∃ imports bases,
        (tokens family rules s).lookup ("IMPORTS" : Text) = some imports ∧
        (tokens family all s).lookup ("IMPORTS" : Text) =
          some (imports ++ (later.capabilities s).flatMap fun c => '\n' :: c.importLine) ∧
        (tokens family rules s).lookup ("INHERITANCE" : Text) = some bases ∧
        (tokens family all s).lookup ("INHERITANCE" : Text) =
          some (bases ++ (later.capabilities s).flatMap fun c => ',' :: ' ' :: c.base) := by
  intro all
  have hall : all = rules ++ later := RuleSet.foldl_add rules later
  have hcapabilities : ∀ s, (rules ++ later).capabilities s =
      rules.capabilities s ++ later.capabilities s :=
    fun s => RuleSet.capabilitiesWhere_append rules later _
  rw [hall]
  refine ⟨rfl, RuleSet.guard?_append rules later, RuleSet.hints_append rules later,
    fun f => RuleSet.capabilitiesWhere_append rules later _, hcapabilities,
    fun f => ⟨isPrefix_preconditionLines rules later,
      RuleSet.hints_prefix_append rules later f.name, splitOn_body_sublist rules later f,
      signature_append rules later f⟩,
    fun family s => ⟨importsText family (rules.capabilities s),
      inheritanceText family (rules.capabilities s), rfl, ?_, rfl, ?_⟩⟩
  · rw [← importsText_append, ← hcapabilities]
    rfl
  · rw [← inheritanceText_append, ← hcapabilities]
    rfl

/-- A rule without hints hides the hints of the rules behind it. -/
example : RuleSet.hints (RuleSet.standard.foldl RuleSet.add [.hint "mint" []]) "MINT" = [] := by
  decide

end Scaffold

end ContractScaffold
