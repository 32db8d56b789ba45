/-
The texts of the placeholders: there is one for every placeholder of a family, and none of
them opens a placeholder where the document has no opening brace.

* `map_fst_tokens`, `exists_lookup_tokens`: the placeholders that have texts.
* `isSealed_functionText`: the only braces in a function are those around its body.
* `IsJoined.isSealed`: members without opening braces, however many.
* `isSealed_of_mem_tokens`: every text of a placeholder keeps its braces from others.
-/
import ContractScaffold.Proofs.Identifier
import ContractScaffold.Proofs.Scaffold.Capability
import ContractScaffold.Proofs.Scaffold.Members
import ContractScaffold.Proofs.Template.Literals

namespace ContractScaffold

open Text
open Template (IsSealed isSealed_nil isSealed_of_notMem)

namespace Scaffold

variable {family : Family} {s : Spec}

/-! ### Placeholders with texts -/

/-- The placeholders that have texts are those of the family. -/
lemma map_fst_tokens (family : Family) (rules : RuleSet) (s : Spec) :
    (tokens family rules s).map Prod.fst = family.tokens := by
  rw [tokens, List.map_append]
  rfl

/-- A placeholder of the family has one of the texts. -/
lemma exists_lookup_tokens {rules : RuleSet} {name : Text} (hname : name ∈ family.tokens) :
    ∃ v, (tokens family rules s).lookup name = some v ∧ (name, v) ∈ tokens family rules s := by
  rw [← map_fst_tokens family rules s] at hname
  obtain ⟨⟨key, v⟩, hmem, rfl⟩ := List.mem_map.mp hname
  have hsome := List.lookup_isSome_iff.mpr ⟨(key, v), hmem, beq_self_eq_true key⟩
  obtain ⟨w, hw⟩ := Option.isSome_iff_exists.mp hsome
  obtain ⟨before, after, htokens, -⟩ := List.lookup_eq_some_iff.mp hw
  exact ⟨w, hw, by simp [htokens]⟩

/-! ### Texts without opening braces -/

/-- What a family brings with it has no opening brace. -/
lemma brace_notMem_family (family : Family) :
    (∀ t ∈ family.baseImports, '\x7b' ∉ t) ∧ (∀ t ∈ family.baseContracts, '\x7b' ∉ t)
      ∧ (∀ t ∈ family.extraTokens.map Prod.snd, '\x7b' ∉ t)
      ∧ ∀ base ∈ family.baseConstructor?,
        '\x7b' ∉ base.contract ∧ '\x7b' ∉ base.defaultName ∧ '\x7b' ∉ base.defaultSymbol := by
  cases family <;> decide

/-- A capability of the standard rules is the owner's. -/
lemma eq_ownable_of_mem_capabilities {c : Capability} (hc : c ∈ RuleSet.standard.capabilities s) :
    c = RuleSet.ownable := by
  rw [RuleSet.capabilities_standard] at hc
  split_ifs at hc
  · exact List.mem_singleton.mp hc
  · simp at hc

/-- The standard rules add no opening brace. -/
lemma brace_notMem_standard : ∀ rule ∈ RuleSet.standard, ∀ t ∈ rule.texts, '\x7b' ∉ t := by
  unfold RuleSet.standard
  decide

/-- What a family brings with it, and behind it what the capabilities do. -/
lemma brace_notMem_wired {separator : Text} {base : List Text} {text : Capability → Text}
    (hseparator : '\x7b' ∉ separator) (hbase : ∀ t ∈ base, '\x7b' ∉ t)
    (howner : '\x7b' ∉ text RuleSet.ownable) (s : Spec) :
    '\x7b' ∉ joinWith separator (base ++ (RuleSet.standard.capabilities s).map text) := by
  refine notMem_joinWith hseparator fun t ht => ?_
  rcases List.mem_append.mp ht with ht | ht
  · exact hbase t ht
  · obtain ⟨c, hc, rfl⟩ := List.mem_map.mp ht
    rwa [eq_ownable_of_mem_capabilities hc]

/-- The pieces of the constructor, where its texts have no opening brace. -/
lemma brace_notMem_constructorArguments
    (hs : ∀ f ∈ s.constructor?, ∀ t ∈ f.texts, '\x7b' ∉ t) : '\x7b' ∉ constructorArguments s := by
  rw [constructorArguments]
  split
  · next f hf => exact notMem_parameterList (Or.inr rfl) (hs f hf)
  · simp

lemma brace_notMem_constructorInheritance (family : Family)
    (hs : ∀ f ∈ s.constructor?, ∀ t ∈ f.texts, '\x7b' ∉ t) :
    '\x7b' ∉ constructorInheritance family s := by
  have hparameter : ∀ {word : Text} {p : Parameter}, constructorParameter? s word = some p →
      '\x7b' ∉ p.name := by
    intro word p h
    obtain ⟨f, hf, hp⟩ := Option.bind_eq_some_iff.mp h
    exact hs f hf _ (mem_texts_of_mem_parameters (List.mem_of_find?_eq_some hp)
      (by simp [Parameter.texts]))
  have hcall : ∀ base first second : Text, '\x7b' ∉ base → '\x7b' ∉ first → '\x7b' ∉ second →
      '\x7b' ∉ base ++ "(" ++ first ++ ", " ++ second ++ ")" := by
    intro base first second hbase hfirst hsecond
    exact List.not_mem_append (List.not_mem_append (List.not_mem_append (List.not_mem_append
      (List.not_mem_append hbase (by decide)) hfirst) (by decide)) hsecond) (by decide)
  rw [constructorInheritance]
  split
  · simp
  · next base hbase =>
      obtain ⟨-, -, -, hbases⟩ := brace_notMem_family family
      obtain ⟨hcontract, hname, hsymbol⟩ := hbases base hbase
      split
      · next name symbol hn hsym =>
          exact hcall _ _ _ hcontract (hparameter hn) (hparameter hsym)
      · exact hcall _ _ _ hcontract hname hsymbol

lemma brace_notMem_constructorLogic
    (hs : ∀ f ∈ s.constructor?, ∀ t ∈ f.texts, '\x7b' ∉ t) : '\x7b' ∉ constructorLogic s := by
  rw [constructorLogic]
  split
  · decide
  · next f hf =>
      refine notMem_joinWith (by decide) (List.forall_mem_map.mpr fun t ht => ?_)
      exact List.not_mem_append (by decide) (hs f hf t (by simp [ContractFunction.texts, ht]))

/-! ### Sealed members -/

/-- The only opening brace of a function is that of its body, which a line feed follows. -/
lemma isSealed_functionText {f : ContractFunction} (hf : ∀ t ∈ f.texts, '\x7b' ∉ t) :
    IsSealed (functionText RuleSet.standard f) := by
  have hbrace : IsForeign '\x7b' := Or.inr rfl
  have hdoc : '\x7b' ∉ docBlock f := by
    rw [docBlock_eq_unlines]
    exact notMem_joinWith (by decide) (notMem_docTextLines hbrace hf)
  have hsignature : '\x7b' ∉ signature RuleSet.standard f :=
    notMem_signature hbrace brace_notMem_standard hf
  have hbody : '\x7b' ∉ body RuleSet.standard f :=
    notMem_joinWith (by decide) (notMem_bodyTextLines hbrace brace_notMem_standard hf)
  have hopen : IsSealed (" \x7b\n" : Text) := by decide
  have hdeclared : '\x7b' ∉ docBlock f ++ memberBreak ++ signature RuleSet.standard f :=
    List.not_mem_append (List.not_mem_append hdoc (by decide)) hsignature
  have hopened := (isSealed_of_notMem hdeclared).append hopen
  exact (hopened.append (isSealed_of_notMem hbody)).append (isSealed_of_notMem (by decide))

/-- Members that are sealed one by one are so together. -/
lemma IsJoined.isSealed {separator t : Text} {ms : List Text} (h : IsJoined separator ms t)
    (hseparator : IsSealed separator) (hms : ∀ m ∈ ms, IsSealed m) : IsSealed t := by
  cases h with
  | comment _ ht => exact isSealed_of_notMem ht
  | members _ => exact hseparator.joinWith hms

/-- **No text of a placeholder opens another one**, alone or together with what stands
around it, where the document has no opening brace. -/
lemma isSealed_of_mem_tokens (hs : ∀ t ∈ s.texts, '\x7b' ∉ t) :
    ∀ y ∈ tokens family RuleSet.standard s, IsSealed y.2 := by
  have hbrace : IsForeign '\x7b' := Or.inr rfl
  obtain ⟨hbaseImports, hbaseContracts, hextra, -⟩ := brace_notMem_family family
  have hfunction : ∀ f ∈ s.functions, ∀ t ∈ f.texts, '\x7b' ∉ t :=
    fun f hf t ht => hs t (Spec.mem_texts_of_mem_functions hf ht)
  have hconstructor : ∀ f ∈ s.constructor?, ∀ t ∈ f.texts, '\x7b' ∉ t :=
    fun f hf => hfunction f (List.mem_of_find?_eq_some hf)
  have hname : '\x7b' ∉ identifierOf s.contractName :=
    fun hc => absurd (isWordChar_of_mem_identifierOf hc) (by decide)
  have himports : '\x7b' ∉ importsText family (RuleSet.standard.capabilities s) :=
    brace_notMem_wired (by decide) hbaseImports (by decide) s
  have hinheritance : '\x7b' ∉ inheritanceText family (RuleSet.standard.capabilities s) :=
    brace_notMem_wired (by decide) hbaseContracts (by decide) s
  have hfunctions : IsSealed (functionsText family RuleSet.standard s.functions) :=
    (isJoined_functionsText family RuleSet.standard s.functions).isSealed (by decide)
      (List.forall_mem_map.mpr fun f hf =>
        isSealed_functionText (hfunction f (List.mem_of_mem_filter hf)))
  have hstates : IsSealed (stateVariablesText family s.stateVariables) :=
    (isJoined_stateVariablesText family s.stateVariables).isSealed (by decide)
      (List.forall_mem_map.mpr fun v hv => isSealed_of_notMem (notMem_stateVariableLine hbrace
        fun t ht => hs t (Spec.mem_texts_of_mem_stateVariables (List.mem_of_mem_filter hv) ht)))
  have hevents : IsSealed (eventsText family s.events) :=
    (isJoined_eventsText family s.events).isSealed (by decide)
      (List.forall_mem_map.mpr fun e he => isSealed_of_notMem (notMem_eventLine hbrace
        fun t ht => hs t (Spec.mem_texts_of_mem_events (List.mem_of_mem_filter he) ht)))
  intro y hy
  rcases List.mem_append.mp hy with hy | hy
  · simp only [commonTokens, List.mem_cons, List.not_mem_nil, or_false] at hy
    rcases hy with rfl | rfl | rfl | rfl | rfl | rfl | rfl | rfl | rfl | rfl
    · exact isSealed_of_notMem hname
    · exact isSealed_of_notMem himports
    · exact isSealed_of_notMem hinheritance
    · exact hstates
    · exact hevents
    · exact isSealed_of_notMem (brace_notMem_constructorArguments hconstructor)
    · exact isSealed_of_notMem (brace_notMem_constructorInheritance family hconstructor)
    · exact isSealed_of_notMem (brace_notMem_constructorLogic hconstructor)
    · exact hfunctions
    · exact isSealed_nil
  · exact isSealed_of_notMem (hextra y.2 (List.mem_map_of_mem hy))

end Scaffold

end ContractScaffold
