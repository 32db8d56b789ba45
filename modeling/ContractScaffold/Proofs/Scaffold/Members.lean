/-
The members of a generated source, read back from its lines. No text of a document can look
like a member that it is not, so the lines tell which members were declared.

* `declarationLines`: the lines of a text that declare functions;
  `declarationLines_append_break` reads them on the two sides of a line feed, and
  `declarationLines_functionText` finds one in a function.
* `notMem_stateVariableLine`, `notMem_eventLine`: what a document brings into a member.
* `IsJoined`: members joined, or a comment that there are none; `isJoined_functionsText`,
  `isJoined_stateVariablesText` and `isJoined_eventsText` say so of the three kinds.
* `IsJoined.areDeclared`, `IsJoined.areMembers`: such members are on their lines.
* `areMembers_stateVariablesText`: the state variables of what was read.
* `members_declared`: the members of every source, by the standard rules.
-/
import ContractScaffold.Proofs.Scaffold.Lines
import ContractScaffold.Proofs.Text.Occurs

namespace ContractScaffold

open Text

namespace Scaffold

/-! ### Lines that declare functions -/

/-- The beginning of a line that declares a function. -/
def functionOpening : Text := "    function "

/-- The lines of a text that declare functions, in order. -/
def declarationLines (t : Text) : List Text :=
  (t.splitOn '\n').filter functionOpening.isPrefixOf

/-- A line feed cuts the lines that declare functions. -/
lemma declarationLines_append_break (s t : Text) :
    declarationLines (s ++ '\n' :: t) = declarationLines s ++ declarationLines t := by
  rw [declarationLines, List.splitOn_append_cons_self, List.filter_append, declarationLines,
    declarationLines]

section

variable {rules : RuleSet} {f : ContractFunction}

/-- No line of a documentation comment declares a function. -/
lemma filter_docTextLines (f : ContractFunction) :
    (docTextLines f).filter functionOpening.isPrefixOf = [] := by
  rw [List.filter_eq_nil_iff]
  intro l hl
  rcases eq_of_mem_docTextLines hl with rfl | rfl | ⟨tag, -, t, rfl, -⟩
  · decide
  · decide
  · exact Bool.false_ne_true

/-- No line of a body declares a function, since a statement is indented further. -/
lemma filter_bodyTextLines (rules : RuleSet) (f : ContractFunction) :
    (bodyTextLines rules f).filter functionOpening.isPrefixOf = [] := by
  rw [List.filter_eq_nil_iff]
  intro l hl
  obtain ⟨m, -, rfl⟩ := List.mem_map.mp hl
  rw [statement]
  split_ifs
  · decide
  · exact Bool.false_ne_true

/-- The only line of a function that declares one is its own declaration. -/
lemma declarationLines_functionText (hrules : ∀ rule ∈ rules, ∀ t ∈ rule.texts, '\n' ∉ t)
    (hf : ∀ t ∈ f.texts, '\n' ∉ t) :
    declarationLines (functionText rules f) = [headerLine rules f] := by
  have hheader : functionOpening.isPrefixOf (headerLine rules f) = true :=
    List.isPrefixOf_iff_prefix.mpr (prefix_headerLine rules f)
  have hend : functionOpening.isPrefixOf endLine = false := by decide
  rw [declarationLines, splitOn_functionText hrules hf, functionLines, List.filter_append,
    filter_docTextLines, List.nil_append, List.filter_cons_of_pos hheader, List.filter_append,
    filter_bodyTextLines]
  simp [hend]

/-- Behind an indentation the text of a function has the same declaration. -/
lemma declarationLines_indented (rules : RuleSet) (f : ContractFunction) :
    declarationLines (memberIndent ++ functionText rules f)
      = declarationLines (functionText rules f) := by
  have hlines : functionText rules f
      = docOpening ++ '\n' :: unlines ((functionLines rules f).drop 1) := by
    rw [functionText_eq_unlines]
    exact unlines_cons _ (by simp)
  have hopening : declarationLines docOpening = [] := by decide
  have hindented : declarationLines (memberIndent ++ docOpening) = [] := by decide
  rw [hlines, ← List.append_assoc, declarationLines_append_break, declarationLines_append_break,
    hopening, hindented]

/-- Functions behind a text, an empty line before each, have their declarations in order. -/
lemma declarationLines_append_functions (hrules : ∀ rule ∈ rules, ∀ t ∈ rule.texts, '\n' ∉ t)
    {fs : List ContractFunction} (hfs : ∀ f ∈ fs, ∀ t ∈ f.texts, '\n' ∉ t) (s : Text) :
    declarationLines
        (s ++ fs.flatMap fun f => '\n' :: '\n' :: (memberIndent ++ functionText rules f))
      = declarationLines s ++ fs.map (headerLine rules) := by
  induction fs generalizing s with
  | nil => simp
  | cons f fs ih =>
      have ih := ih fun g hg => hfs g (List.mem_cons_of_mem f hg)
      have hblank : declarationLines ('\n' :: (memberIndent ++ functionText rules f))
          = [headerLine rules f] := by
        refine (declarationLines_append_break [] _).trans ?_
        rw [declarationLines_indented, declarationLines_functionText hrules (hfs f (by simp))]
        rfl
      rw [List.flatMap_cons, ← List.append_assoc, ih, declarationLines_append_break, hblank,
        List.append_assoc, List.singleton_append, List.map_cons]

end

/-! ### What a document brings into a member -/

section

variable {c : Char} {t : Text}

lemma mem_of_mem_declaredType (hmem : c ∈ declaredType t) : c ∈ t := by
  rw [declaredType] at hmem
  split_ifs at hmem
  · exact mem_of_mem_without (mem_of_mem_trim hmem)
  · exact hmem

/-- A character that no text of a state variable holds is not in its declaration. -/
lemma notMem_stateVariableLine (hc : IsForeign c) {v : StateVariable}
    (hv : ∀ t ∈ v.texts, c ∉ t) : c ∉ stateVariableLine v := by
  have hname : c ∉ v.name := hv _ (by simp [StateVariable.texts])
  have htype : c ∉ v.type := hv _ (by simp [StateVariable.texts])
  have hdescription : c ∉ v.description := hv _ (by simp [StateVariable.texts])
  have hdeclared : c ∉ declaredType v.type := fun h => htype (mem_of_mem_declaredType h)
  have hpublic : c ∉ declaredType v.type ++ " public " ++ v.name :=
    List.not_mem_append (List.not_mem_append hdeclared (hc.notMem (by decide))) hname
  exact List.not_mem_append (List.not_mem_append hpublic (hc.notMem (by decide))) hdescription

/-- A character that no text of an event holds is not in its declaration. -/
lemma notMem_eventLine (hc : IsForeign c) {e : Event} (he : ∀ t ∈ e.texts, c ∉ t) :
    c ∉ eventLine e := by
  have hname : c ∉ e.name := he _ (by simp [Event.texts])
  have hparameters : c ∉ e.parameters := he _ (by simp [Event.texts])
  have hdescription : c ∉ e.description := he _ (by simp [Event.texts])
  have hopen : c ∉ "event " ++ e.name ++ "(" :=
    List.not_mem_append (List.not_mem_append (hc.notMem (by decide)) hname)
      (hc.notMem (by decide))
  have hclose : c ∉ "event " ++ e.name ++ "(" ++ e.parameters ++ "); // " :=
    List.not_mem_append (List.not_mem_append hopen hparameters) (hc.notMem (by decide))
  exact List.not_mem_append hclose hdescription

end

/-! ### Members that are joined -/

/-- Members joined by a separator or, where there is none, a comment without braces. -/
inductive IsJoined (separator : Text) : List Text → Text → Prop where
  | comment {t : Text} : IsComment t → '\x7b' ∉ t → IsJoined separator [] t
  | members {ms : List Text} : ms ≠ [] → IsJoined separator ms (joinWith separator ms)

section

variable (family : Family)

/-- What separates two functions. -/
def functionBreak : Text := "\n\n    "

lemma isJoined_functionsText (rules : RuleSet) (functions : List ContractFunction) :
    IsJoined functionBreak ((customFunctions family functions).map (functionText rules))
      (functionsText family rules functions) := by
  rw [functionsText]
  split_ifs with hnone
  · rw [List.isEmpty_iff.mp hnone]
    exact .comment ⟨by decide, by decide⟩ (by decide)
  · split
    · next hcustom =>
        rw [hcustom]
        exact .comment ⟨by decide, by decide⟩ (by decide)
    · next hcustom => exact .members fun hnil => hcustom (List.map_eq_nil_iff.mp hnil)

lemma isJoined_stateVariablesText (vs : List StateVariable) :
    IsJoined memberBreak ((vs.filter fun v => !family.providedStateVariables.elem v.name).map
      stateVariableLine) (stateVariablesText family vs) := by
  have hinherited : IsJoined memberBreak [] ("// No custom state variables (standard "
      ++ family.label ++ " variables inherited)") := by
    cases family <;> exact .comment ⟨by decide, by decide⟩ (by decide)
  rw [stateVariablesText]
  split_ifs with hnone
  · rw [List.isEmpty_iff.mp hnone]
    exact .comment ⟨by decide, by decide⟩ (by decide)
  · split
    · next hcustom =>
        rw [hcustom]
        exact hinherited
    · next hcustom => exact .members fun hnil => hcustom (List.map_eq_nil_iff.mp hnil)

lemma isJoined_eventsText (events : List Event) :
    IsJoined memberBreak ((events.filter fun e => !family.providedEvents.elem e.name).map
      eventLine) (eventsText family events) := by
  have hinherited : IsJoined memberBreak [] ("// No custom events (standard "
      ++ family.label ++ " events inherited)") := by
    cases family <;> exact .comment ⟨by decide, by decide⟩ (by decide)
  rw [eventsText]
  split_ifs with hnone
  · rw [List.isEmpty_iff.mp hnone]
    exact .comment ⟨by decide, by decide⟩ (by decide)
  · split
    · next hcustom =>
        rw [hcustom]
        exact hinherited
    · next hcustom => exact .members fun hnil => hcustom (List.map_eq_nil_iff.mp hnil)

end

/-! ### The lines of members -/

/-- A text that declares functions on these lines and no others: a comment where there is
no function. -/
def AreDeclared (ls : List Text) (t : Text) : Prop :=
  declarationLines t = ls ∧ (ls = [] → IsComment t)

/-- A comment declares no function. -/
lemma declarationLines_eq_nil {t : Text} (ht : IsComment t) :
    declarationLines t = [] := by
  obtain ⟨hline, u, rfl⟩ := ht
  rw [declarationLines, List.splitOn_eq_singleton hline]
  rfl

/-- Functions that are joined are declared in order. -/
lemma IsJoined.areDeclared {rules : RuleSet}
    (hrules : ∀ rule ∈ rules, ∀ t ∈ rule.texts, '\n' ∉ t) {fs : List ContractFunction}
    (hfs : ∀ f ∈ fs, ∀ t ∈ f.texts, '\n' ∉ t) {t : Text}
    (h : IsJoined functionBreak (fs.map (functionText rules)) t) :
    AreDeclared (fs.map (headerLine rules)) t := by
  generalize hms : fs.map (functionText rules) = ms at h
  cases h with
  | comment ht _ =>
      rw [List.map_eq_nil_iff.mp hms]
      exact ⟨declarationLines_eq_nil ht, fun _ => ht⟩
  | members hne =>
      subst hms
      obtain ⟨f, fs, rfl⟩ := List.exists_cons_of_ne_nil (mt List.map_eq_nil_iff.mpr hne)
      obtain ⟨hf, hfs⟩ := List.forall_mem_cons.mp hfs
      refine ⟨?_, fun hnil => absurd hnil (by simp)⟩
      have hrest := declarationLines_append_functions hrules hfs (functionText rules f)
      rw [declarationLines_functionText hrules hf] at hrest
      rw [List.map_cons, joinWith_cons, List.flatMap_map]
      exact hrest

/-- The lines of members: the first where its placeholder stands, every other one at the
indentation of members. -/
def memberLines : List Text → List Text
  | [] => []
  | l :: ls => l :: ls.map (memberIndent ++ ·)

/-- Members that stand on one line each are the lines that they make. -/
lemma splitOn_joinWith_memberBreak {ls : List Text} (hne : ls ≠ []) (hls : ∀ l ∈ ls, '\n' ∉ l) :
    (joinWith memberBreak ls).splitOn '\n' = memberLines ls := by
  obtain ⟨l, ls, rfl⟩ := List.exists_cons_of_ne_nil hne
  have hlines : ∀ k ∈ memberLines (l :: ls), '\n' ∉ k := by
    intro k hk
    rcases List.mem_cons.mp hk with rfl | hk
    · exact hls k (by simp)
    · obtain ⟨m, hm, rfl⟩ := List.mem_map.mp hk
      exact List.not_mem_append (by decide) (hls m (List.mem_cons_of_mem l hm))
  have hbreak : memberBreak = '\n' :: memberIndent := by decide
  rw [hbreak, joinWith_break, unlines, joinWith]
  exact List.splitOn_intercalate '\n' hlines (by simp)

/-- A text with these members on its lines and nothing else: a comment where there is no
member. -/
def AreMembers (ls : List Text) (t : Text) : Prop :=
  if ls = [] then IsComment t else t.splitOn '\n' = memberLines ls

/-- Members that are joined are on their lines. -/
lemma IsJoined.areMembers {ls : List Text} {t : Text} (h : IsJoined memberBreak ls t)
    (hls : ∀ l ∈ ls, '\n' ∉ l) : AreMembers ls t := by
  cases h with
  | comment ht _ => rwa [AreMembers, if_pos rfl]
  | members hne =>
      rw [AreMembers, if_neg hne]
      exact splitOn_joinWith_memberBreak hne hls

/-! ### The members of what was read -/

/-- The declarations of the state variables that were read and that the family does not provide
are on their lines. -/
lemma areMembers_stateVariablesText (t : Text) (family : Family) :
    AreMembers (((Spec.ofText t).stateVariables.filter fun v =>
        !family.providedStateVariables.elem v.name).map stateVariableLine)
      (stateVariablesText family (Spec.ofText t).stateVariables) := by
  have hnormal : (Spec.ofText t).IsNormal :=
    Spec.isNormal_ofDocument fun _ hx => Document.newline_notMem_heading hx
  refine (isJoined_stateVariablesText family _).areMembers (List.forall_mem_map.mpr fun v hv => ?_)
  exact notMem_stateVariableLine (Or.inl rfl) fun u hu =>
    (hnormal.tidy_stateVariable (List.mem_of_mem_filter hv) u hu).line

/-- **No member is declared twice and none is lost**: for every text and family, by the
standard rules, the lines of the functions that begin like a declaration are the
declarations of the functions that are neither constructors nor provided by the family in
any letter case, and the lines of the state variables and of the events are those that the
family does not provide under the same name. Each is in the order of the document, and
where there is no such member a comment stands alone. -/
theorem members_declared (t : Text) (family : Family) :
    ∃ functions states events,
      (tokens family RuleSet.standard (Spec.ofText t)).lookup ("FUNCTIONS" : Text) = some functions
      ∧ (tokens family RuleSet.standard (Spec.ofText t)).lookup ("STATE_VARIABLES" : Text)
          = some states
      ∧ (tokens family RuleSet.standard (Spec.ofText t)).lookup ("EVENTS" : Text) = some events
      ∧ AreDeclared (((Spec.ofText t).functions.filter fun f =>
            !f.isConstructor && !family.providedFunctions.elem (lower f.name)).map fun f =>
          "    function " ++ f.name ++ "(" ++ f.parameterList ++ ") public"
            ++ (RuleSet.standard.functionCapabilities f).flatMap (fun c => ' ' :: c.modifier)
            ++ returnsClause f.returns ++ " \x7b") functions
      ∧ AreMembers (((Spec.ofText t).stateVariables.filter fun v =>
            !family.providedStateVariables.elem v.name).map stateVariableLine) states
      ∧ AreMembers (((Spec.ofText t).events.filter fun e =>
            !family.providedEvents.elem e.name).map eventLine) events := by
  have hnormal : (Spec.ofText t).IsNormal :=
    Spec.isNormal_ofDocument fun _ hx => Document.newline_notMem_heading hx
  have hbreak : IsForeign '\n' := Or.inl rfl
  have hfunctions := (isJoined_functionsText family RuleSet.standard _).areDeclared
    RuleSet.isInert_standard.newline_notMem fun f hf u hu =>
      (hnormal.tidy_function (List.mem_of_mem_filter hf) u hu).line
  have hstates := areMembers_stateVariablesText t family
  have hevents := (isJoined_eventsText family (Spec.ofText t).events).areMembers
    (List.forall_mem_map.mpr fun e he => notMem_eventLine hbreak fun u hu =>
      (hnormal.tidy_event (List.mem_of_mem_filter he) u hu).line)
  rw [funext (headerLine_eq RuleSet.standard)] at hfunctions
  exact ⟨_, _, _, rfl, rfl, rfl, hfunctions, hstates, hevents⟩

end Scaffold

end ContractScaffold
