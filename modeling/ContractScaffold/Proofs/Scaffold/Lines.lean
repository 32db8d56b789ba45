/-
The lines of generated sources. No text of a specification that was read holds a line
feed, so a function has the lines that its parts are made of and no others, and nothing
that a document says begins a line of its own in a body.

* `RuleSet.IsInert`: rules whose guards and hints are comments on one line.
* `functionText_eq_unlines`: the lines of a function, put together.
* `IsForeign`: the characters that only a document or a rule brings in;
  `notMem_docTextLines`, `notMem_signature` and `notMem_bodyTextLines` say so of the parts
  of a function.
* `splitOn_functionText`: the lines of a function are those that it was put together from.
* `comment_of_mem_preconditionBlock`, `comment_of_mem_rest`: the lines of the body are
  comments.
* `IsScaffold`, `functionText_lines`: the lines of every function of a specification that
  was read, and of the constructor.
-/
import ContractScaffold.Scaffold
import ContractScaffold.Proofs.Rule
import ContractScaffold.Proofs.Spec.Normal

namespace ContractScaffold

open Text

/-! ### Rules that add comments only -/

/-- A comment on one line. -/
def IsComment (l : Text) : Prop :=
  '\n' ∉ l ∧ ("//" : Text) <+: l

/-- A rule that adds nothing but comments to a body, and whose modifier stands on one
line. -/
def Rule.IsInert : Rule → Prop
  | capability _ c => '\n' ∉ c.modifier
  | guard _ statement => IsComment statement
  | hint _ statements => ∀ l ∈ statements, IsComment l

/-- The texts of an inert rule stand on one line. -/
lemma Rule.IsInert.newline_notMem {rule : Rule} (h : rule.IsInert) :
    ∀ t ∈ rule.texts, '\n' ∉ t := by
  intro t ht
  cases rule with
  | capability matcher c => rwa [List.mem_singleton.mp ht]
  | guard matcher statement =>
      rw [List.mem_singleton.mp ht]
      exact And.left h
  | hint function statements => exact And.left (h t ht)

namespace RuleSet

/-- Rules all of which are inert. -/
def IsInert (rules : RuleSet) : Prop :=
  ∀ rule ∈ rules, rule.IsInert

variable {rules : RuleSet}

lemma IsInert.newline_notMem (h : rules.IsInert) :
    ∀ rule ∈ rules, ∀ t ∈ rule.texts, '\n' ∉ t :=
  fun rule hrule => (h rule hrule).newline_notMem

/-- A guard is a comment. -/
lemma IsInert.isComment_guard (h : rules.IsInert) {condition l : Text}
    (hl : rules.guard? condition = some l) : IsComment l := by
  obtain ⟨matcher, hguard⟩ := exists_guard hl
  exact h _ hguard

/-- A hint is a comment. -/
lemma IsInert.isComment_hint (h : rules.IsInert) {name l : Text} (hl : l ∈ rules.hints name) :
    IsComment l := by
  obtain ⟨function, statements, hhint, hl⟩ := exists_hint hl
  exact h _ hhint l hl

/-- The standard rules add comments only. -/
lemma isInert_standard : standard.IsInert := by
  unfold IsInert standard
  simp only [List.forall_mem_cons, Rule.IsInert, List.not_mem_nil, false_implies, implies_true,
    and_true]
  refine ⟨by decide, ⟨?_, ?_⟩, ⟨?_, ?_⟩, ⟨?_, ?_⟩, ⟨?_, ?_⟩, ⟨?_, ?_⟩, ⟨?_, ?_⟩, ⟨?_, ?_⟩,
    ⟨?_, ?_⟩⟩ <;> decide

end RuleSet

namespace Scaffold

/-! ### The lines of a function -/

/-- The indentation of a member. -/
def memberIndent : Text := "    "

/-- The line of a tag in the documentation comment of a member. -/
def tagLine (tag t : Text) : Text :=
  "     * @" ++ tag ++ " " ++ t

/-- The lines of the tags in the documentation comment of a function: the notice, every
parameter in order, and what is said of the returned values and of security. -/
def tagLines (f : ContractFunction) : List Text :=
  tagLine "notice" (notice f)
      :: f.parameters.map (fun p => tagLine "param" (p.name ++ ' ' :: p.type))
    ++ (if f.returns = [] then [] else [tagLine "return" f.returns])
    ++ (if f.security = [] then [] else [tagLine "dev Security:" f.security])

/-- The lines of the documentation comment of a member. -/
def docTextLines (f : ContractFunction) : List Text :=
  ("/**" : Text) :: tagLines f ++ [("     */" : Text)]

/-- The line that declares a function. -/
def headerLine (rules : RuleSet) (f : ContractFunction) : Text :=
  memberIndent ++ signature rules f ++ " \x7b"

/-- The lines of the body of a function. -/
def bodyTextLines (rules : RuleSet) (f : ContractFunction) : List Text :=
  (bodyLines rules f).map statement

/-- The line that ends a function. -/
def endLine : Text := "    \x7d"

/-- The lines of a function. -/
def functionLines (rules : RuleSet) (f : ContractFunction) : List Text :=
  docTextLines f ++ (headerLine rules f :: (bodyTextLines rules f ++ [endLine]))

lemma memberIndent_docLine (tag t : Text) : memberIndent ++ docLine tag t = tagLine tag t := by
  unfold memberIndent docLine tagLine
  simp only [String.reduceToList, List.cons_append, List.nil_append]

lemma map_optionalDocLine (tag t : Text) : (optionalDocLine tag t).map (memberIndent ++ ·)
    = if t = [] then [] else [tagLine tag t] := by
  by_cases ht : t = []
  · rw [optionalDocLine, if_pos (List.isEmpty_iff.mpr ht), if_pos ht, List.map_nil]
  · rw [optionalDocLine, if_neg (mt List.isEmpty_iff.mp ht), if_neg ht, List.map_singleton,
      memberIndent_docLine]

/-- The documentation comment, line by line. -/
lemma docBlock_eq_unlines (f : ContractFunction) : docBlock f = unlines (docTextLines f) := by
  have hparameters : f.parameters.map (fun p => memberIndent ++ parameterDocLine p)
      = f.parameters.map fun p => tagLine "param" (p.name ++ ' ' :: p.type) :=
    List.map_congr_left fun p _ => memberIndent_docLine "param" (p.name ++ ' ' :: p.type)
  have hclosing : memberIndent ++ docClosing = "     */" := by decide
  have htags : (docLine "notice" (notice f) :: f.parameters.map parameterDocLine ++
      optionalDocLine "return" f.returns ++ optionalDocLine "dev Security:" f.security ++
      [docClosing]).map (memberIndent ++ ·) = tagLines f ++ [("     */" : Text)] := by
    rw [List.map_append, List.map_append, List.map_append, List.map_cons, List.map_map,
      map_optionalDocLine, map_optionalDocLine, memberIndent_docLine, List.map_singleton, hclosing]
    exact congrArg (fun ls => tagLine "notice" (notice f) :: ls ++ _ ++ _ ++ _) hparameters
  have hbreak : memberBreak = '\n' :: memberIndent := by decide
  have hlines := joinWith_break memberIndent docOpening
    (docLine "notice" (notice f) :: f.parameters.map parameterDocLine ++
      optionalDocLine "return" f.returns ++ optionalDocLine "dev Security:" f.security ++
      [docClosing])
  rw [htags] at hlines
  rw [docBlock, docLines, hbreak]
  exact hlines

lemma bodyTextLines_ne_nil (rules : RuleSet) (f : ContractFunction) :
    bodyTextLines rules f ≠ [] := by
  simp [bodyTextLines, bodyLines]

/-- **A function is its lines**, put together. -/
lemma functionText_eq_unlines (rules : RuleSet) (f : ContractFunction) :
    functionText rules f = unlines (functionLines rules f) := by
  have hdoc : docTextLines f ≠ [] := List.cons_ne_nil _ _
  have hbody : body rules f = unlines (bodyTextLines rules f) := rfl
  have hone : unlines [endLine] = endLine := by simp [unlines, joinWith]
  have hbreak : memberBreak = '\n' :: memberIndent := by decide
  have hopen : (" \x7b\n" : Text) = " \x7b" ++ ['\n'] := by decide
  have hclose : ("\n    \x7d" : Text) = '\n' :: endLine := by decide
  rw [functionLines, unlines_append hdoc (by simp), unlines_cons _ (by simp [endLine]),
    unlines_append (bodyTextLines_ne_nil rules f) (by simp), hone, ← docBlock_eq_unlines,
    functionText, hbreak, hopen, hclose, hbody, headerLine]
  simp only [List.append_assoc, List.cons_append, List.nil_append]

/-! ### Characters that a document brings in -/

/-- A character that no line of a function has of its own, but for the braces around the
body: only a document or a rule can bring it in. -/
def IsForeign (c : Char) : Prop :=
  c = '\n' ∨ c = '\x7b'

/-- A foreign character is not in a text that holds neither of the two. -/
lemma IsForeign.notMem {c : Char} (hc : IsForeign c) {t : Text} (ht : '\n' ∉ t ∧ '\x7b' ∉ t) :
    c ∉ t := by
  rcases hc with rfl | rfl
  · exact ht.1
  · exact ht.2

section

variable {rules : RuleSet} {f : ContractFunction} {c : Char} {l : Text}

/-- The texts of a parameter are texts of its function. -/
lemma mem_texts_of_mem_parameters {p : Parameter} (hp : p ∈ f.parameters) {t : Text}
    (ht : t ∈ p.texts) : t ∈ f.texts := by
  simp only [ContractFunction.texts, List.mem_append, List.mem_flatMap]
  exact Or.inl (Or.inl (Or.inl (Or.inr ⟨p, hp, ht⟩)))

lemma notMem_tagLine (hc : IsForeign c) {tag t : Text} (htag : c ∉ tag) (ht : c ∉ t) :
    c ∉ tagLine tag t := by
  have hfront : c ∉ ("     * @" : Text) := hc.notMem (by decide)
  have hgap : c ∉ (" " : Text) := hc.notMem (by decide)
  exact List.not_mem_append (List.not_mem_append (List.not_mem_append hfront htag) hgap) ht

/-- The tags of a documentation comment. -/
def docTags : List Text := ["notice", "param", "return", "dev Security:"]

/-- The lines of a documentation comment: its ends, and tags with texts of the function. -/
lemma eq_of_mem_docTextLines (hl : l ∈ docTextLines f) :
    l = "/**" ∨ l = "     */" ∨ ∃ tag ∈ docTags, ∃ t, l = tagLine tag t
      ∧ (t = notice f ∨ (∃ p ∈ f.parameters, t = p.name ++ ' ' :: p.type) ∨ t = f.returns
        ∨ t = f.security) := by
  simp only [docTextLines, tagLines, List.mem_append, List.mem_cons, List.mem_map,
    List.not_mem_nil, or_false] at hl
  rcases hl with (rfl | ((rfl | ⟨p, hp, rfl⟩) | hl) | hl) | rfl
  · exact Or.inl rfl
  · exact Or.inr (Or.inr ⟨_, by simp [docTags], _, rfl, Or.inl rfl⟩)
  · exact Or.inr (Or.inr ⟨_, by simp [docTags], _, rfl, Or.inr (Or.inl ⟨p, hp, rfl⟩)⟩)
  · split_ifs at hl
    · simp at hl
    · exact Or.inr (Or.inr ⟨_, by simp [docTags], _, List.mem_singleton.mp hl, by simp⟩)
  · split_ifs at hl
    · simp at hl
    · exact Or.inr (Or.inr ⟨_, by simp [docTags], _, List.mem_singleton.mp hl, by simp⟩)
  · exact Or.inr (Or.inl rfl)

/-- A character that no text of a function holds is in no line of its documentation
comment. -/
lemma notMem_docTextLines (hc : IsForeign c) (hf : ∀ t ∈ f.texts, c ∉ t) :
    ∀ l ∈ docTextLines f, c ∉ l := by
  have hdescription : c ∉ f.description := hf _ (by simp [ContractFunction.texts])
  have hnotice : c ∉ notice f := by
    rw [notice]
    split_ifs
    · exact hc.notMem (by decide)
    · exact fun hmem => hdescription (mem_of_mem_trim hmem)
  have htags : ∀ tag ∈ docTags, '\n' ∉ tag ∧ '\x7b' ∉ tag := by decide
  intro l hl
  rcases eq_of_mem_docTextLines hl with rfl | rfl | ⟨tag, htag, t, rfl, ht⟩
  · exact hc.notMem (by decide)
  · exact hc.notMem (by decide)
  · refine notMem_tagLine hc (hc.notMem (htags tag htag)) ?_
    rcases ht with rfl | ⟨p, hp, rfl⟩ | rfl | rfl
    · exact hnotice
    · have hparameter : ∀ u ∈ p.texts, c ∉ u := fun u hu =>
        hf u (mem_texts_of_mem_parameters hp hu)
      have hgap : c ∉ ([' '] : Text) := hc.notMem (by decide)
      exact List.not_mem_append (hparameter p.name (by simp [Parameter.texts]))
        (List.not_mem_append hgap (hparameter p.type (by simp [Parameter.texts])))
    · exact hf _ (by simp [ContractFunction.texts])
    · exact hf _ (by simp [ContractFunction.texts])

lemma notMem_parameterList (hc : IsForeign c) (hf : ∀ t ∈ f.texts, c ∉ t) :
    c ∉ f.parameterList := by
  intro hmem
  rcases ContractFunction.mem_parameterList hmem with rfl | rfl | ⟨p, hp, t, ht, hmem⟩
  · exact absurd hc (by simp [IsForeign])
  · exact absurd hc (by simp [IsForeign])
  · exact hf t (mem_texts_of_mem_parameters hp ht) hmem

/-- A character that neither a text of a function nor a rule holds is not in its
declaration. -/
lemma notMem_signature (hc : IsForeign c) (hrules : ∀ rule ∈ rules, ∀ t ∈ rule.texts, c ∉ t)
    (hf : ∀ t ∈ f.texts, c ∉ t) : c ∉ signature rules f := by
  have hname : c ∉ f.name := hf _ (by simp [ContractFunction.texts])
  have hreturns : c ∉ f.returns := hf _ (by simp [ContractFunction.texts])
  have hmodifiers : c ∉ (rules.functionCapabilities f).flatMap fun d => ' ' :: d.modifier := by
    intro hmem
    obtain ⟨d, hd, hmem⟩ := List.mem_flatMap.mp hmem
    obtain ⟨matcher, hrule⟩ := RuleSet.exists_capability hd
    have hmodifier : c ∉ d.modifier := hrules _ hrule _ (by simp [Rule.texts])
    exact List.not_mem_append (hc.notMem (by decide) : c ∉ [' ']) hmodifier hmem
  have hclause : c ∉ returnsClause f.returns := by
    rw [returnsClause]
    split_ifs
    · simp
    · exact List.not_mem_append (List.not_mem_append (hc.notMem (by decide)) hreturns)
        (hc.notMem (by decide))
  have hopen : c ∉ "function " ++ f.name ++ "(" :=
    List.not_mem_append (List.not_mem_append (hc.notMem (by decide)) hname)
      (hc.notMem (by decide))
  have hclose : c ∉ "function " ++ f.name ++ "(" ++ f.parameterList ++ ") public" :=
    List.not_mem_append (List.not_mem_append hopen (notMem_parameterList hc hf))
      (hc.notMem (by decide))
  exact List.not_mem_append (List.not_mem_append hclose hmodifiers) hclause

/-! ### The lines of a body -/

/-- The lines for preconditions: a title, every condition and its guard, and an empty
line. -/
lemma eq_of_mem_preconditionBlock {conditions : List Text}
    (hl : l ∈ preconditionBlock rules conditions) : l = [] ∨ l = preconditionsTitle ∨
      ∃ condition ∈ conditions, l = comment condition ∨ rules.guard? condition = some l := by
  rw [preconditionBlock] at hl
  split_ifs at hl
  · simp at hl
  · rw [List.mem_append, List.mem_cons, List.mem_flatMap, List.mem_singleton] at hl
    rcases hl with (rfl | ⟨condition, hcondition, hl⟩) | rfl
    · exact Or.inr (Or.inl rfl)
    · refine Or.inr (Or.inr ⟨condition, hcondition, ?_⟩)
      exact (List.mem_cons.mp hl).imp_right Option.mem_toList.mp
    · exact Or.inl rfl

/-- The lines for events: an empty line, and every event. -/
lemma eq_of_mem_eventBlock {events : List Text} (hl : l ∈ eventBlock events) :
    l = [] ∨ ∃ event ∈ events, l = emitLine event := by
  rw [eventBlock] at hl
  split_ifs at hl
  · simp at hl
  · rcases List.mem_cons.mp hl with rfl | hl
    · exact Or.inl rfl
    · obtain ⟨event, hevent, rfl⟩ := List.mem_map.mp hl
      exact Or.inr ⟨event, hevent, rfl⟩

/-- The lines that return a truth value, where there are any. -/
lemma eq_of_mem_returnBlock {returns : Text} (hl : l ∈ returnBlock returns) :
    l = [] ∨ l = "return true;" := by
  rw [returnBlock] at hl
  split_ifs at hl
  · simpa using hl
  · simp at hl

lemma notMem_statement (hc : IsForeign c) (hl : c ∉ l) : c ∉ statement l := by
  rw [statement]
  split_ifs
  · simp
  · exact List.not_mem_append (hc.notMem (by decide)) hl

/-- A character that neither a text of a function nor a rule holds is in no line of its
body. -/
lemma notMem_bodyTextLines (hc : IsForeign c) (hrules : ∀ rule ∈ rules, ∀ t ∈ rule.texts, c ∉ t)
    (hf : ∀ t ∈ f.texts, c ∉ t) : ∀ l ∈ bodyTextLines rules f, c ∉ l := by
  intro l hl
  obtain ⟨m, hm, rfl⟩ := List.mem_map.mp hl
  refine notMem_statement hc ?_
  have hslashes : c ∉ ("// " : Text) := hc.notMem (by decide)
  have hemit : c ∉ ("// emit " : Text) := hc.notMem (by decide)
  simp only [bodyLines, List.mem_append, List.mem_cons] at hm
  rcases hm with ((hm | rfl | hm) | hm) | hm
  · rcases eq_of_mem_preconditionBlock hm with rfl | rfl | ⟨t, ht, rfl | hguard⟩
    · simp
    · exact hc.notMem (by decide)
    · exact List.not_mem_append hslashes (hf t (by simp [ContractFunction.texts, ht]))
    · obtain ⟨matcher, hrule⟩ := RuleSet.exists_guard hguard
      exact hrules _ hrule m (by simp [Rule.texts])
  · exact hc.notMem (by decide)
  · obtain ⟨function, statements, hrule, hm⟩ := RuleSet.exists_hint hm
    exact hrules _ hrule m hm
  · rcases eq_of_mem_eventBlock hm with rfl | ⟨t, ht, rfl⟩
    · simp
    · exact List.not_mem_append hemit (hf t (by simp [ContractFunction.texts, ht]))
  · rcases eq_of_mem_returnBlock hm with rfl | rfl
    · simp
    · exact hc.notMem (by decide)

/-- The lines of a function whose texts, and those of the rules, stand on one line. -/
lemma newline_notMem_functionLines (hrules : ∀ rule ∈ rules, ∀ t ∈ rule.texts, '\n' ∉ t)
    (hf : ∀ t ∈ f.texts, '\n' ∉ t) : ∀ l ∈ functionLines rules f, '\n' ∉ l := by
  have hbreak : IsForeign '\n' := Or.inl rfl
  have hheader : '\n' ∉ headerLine rules f :=
    List.not_mem_append (List.not_mem_append (by decide) (notMem_signature hbreak hrules hf))
      (by decide)
  intro l hl
  simp only [functionLines, List.mem_append, List.mem_cons, List.not_mem_nil, or_false] at hl
  rcases hl with hl | rfl | hl | rfl
  · exact notMem_docTextLines hbreak hf l hl
  · exact hheader
  · exact notMem_bodyTextLines hbreak hrules hf l hl
  · decide

/-- **The lines of a function** are those that it was put together from. -/
lemma splitOn_functionText (hrules : ∀ rule ∈ rules, ∀ t ∈ rule.texts, '\n' ∉ t)
    (hf : ∀ t ∈ f.texts, '\n' ∉ t) :
    (functionText rules f).splitOn '\n' = functionLines rules f := by
  rw [functionText_eq_unlines]
  exact List.splitOn_intercalate '\n' (newline_notMem_functionLines hrules hf)
    (by simp [functionLines])

/-! ### Lines that no compiler reads -/

/-- A line of a body that no compiler reads: empty, or a comment at the indentation of a
statement. -/
def IsInertLine (l : Text) : Prop :=
  l = [] ∨ ("        //" : Text) <+: l

/-- Behind a front part that is a comment there is one. -/
lemma isComment_append {front t : Text} (hfront : IsComment front) (ht : '\n' ∉ t) :
    IsComment (front ++ t) :=
  ⟨List.not_mem_append hfront.1 ht, hfront.2.trans (List.prefix_append front t)⟩

lemma isComment_comment {t : Text} (ht : '\n' ∉ t) : IsComment (comment t) :=
  isComment_append ⟨by decide, by decide⟩ ht

lemma isComment_emitLine {t : Text} (ht : '\n' ∉ t) : IsComment (emitLine t) :=
  isComment_append ⟨by decide, by decide⟩ ht

/-- A comment or an empty line, at its indentation. -/
lemma isInertLine_statement (h : l = [] ∨ IsComment l) : IsInertLine (statement l) := by
  rcases h with rfl | ⟨-, t, rfl⟩
  · exact Or.inl rfl
  · have hindent : ("        //" : Text) = statementIndent ++ "//" := by decide
    have hstatement : statement ("//" ++ t) = statementIndent ++ ("//" ++ t) := by simp [statement]
    rw [hstatement, IsInertLine, hindent, ← List.append_assoc]
    exact Or.inr (List.prefix_append _ t)

/-- The lines for preconditions are comments, but for an empty one. -/
lemma comment_of_mem_preconditionBlock (hrules : rules.IsInert) {conditions : List Text}
    (hlines : ∀ t ∈ conditions, '\n' ∉ t) (hl : l ∈ preconditionBlock rules conditions) :
    l = [] ∨ IsComment l := by
  rcases eq_of_mem_preconditionBlock hl with rfl | rfl | ⟨condition, hcondition, rfl | hguard⟩
  · exact Or.inl rfl
  · exact Or.inr ⟨by decide, by decide⟩
  · exact Or.inr (isComment_comment (hlines condition hcondition))
  · exact Or.inr (hrules.isComment_guard hguard)

/-- The lines between the mark of an unfinished body and the returned value are comments,
but for an empty one. -/
lemma comment_of_mem_rest (hrules : rules.IsInert) (hlines : ∀ t ∈ f.events, '\n' ∉ t)
    (hl : l ∈ rules.hints f.name ++ eventBlock f.events) : l = [] ∨ IsComment l := by
  rcases List.mem_append.mp hl with hl | hl
  · exact Or.inr (hrules.isComment_hint hl)
  · rcases eq_of_mem_eventBlock hl with rfl | ⟨event, hevent, rfl⟩
    · exact Or.inl rfl
    · exact Or.inr (isComment_emitLine (hlines event hevent))

/-- The line of a declaration, in one piece. -/
lemma headerLine_eq (rules : RuleSet) (f : ContractFunction) : headerLine rules f
    = "    function " ++ f.name ++ "(" ++ f.parameterList ++ ") public"
      ++ (rules.functionCapabilities f).flatMap (fun c => ' ' :: c.modifier)
      ++ returnsClause f.returns ++ " \x7b" := by
  have hword : memberIndent ++ "function " = "    function " := by decide
  have hassoc : ∀ w a b c d e g h i : Text, w ++ (a ++ b ++ c ++ d ++ e ++ g ++ h) ++ i
      = w ++ a ++ b ++ c ++ d ++ e ++ g ++ h ++ i := by
    intros
    simp only [List.append_assoc]
  rw [← hword]
  exact hassoc _ _ _ _ _ _ _ _ _

/-- A declaration begins with its word. -/
lemma prefix_headerLine (rules : RuleSet) (f : ContractFunction) :
    ("    function " : Text) <+: headerLine rules f := by
  rw [headerLine_eq]
  exact (((((List.prefix_append _ _).trans (List.prefix_append _ _)).trans
    (List.prefix_append _ _)).trans (List.prefix_append _ _)).trans
    (List.prefix_append _ _)).trans ((List.prefix_append _ _).trans (List.prefix_append _ _))

/-- The line that marks the body of a function as unfinished. -/
def unfinishedLine : Text := "        // TODO: Implement function logic"

/-- The last lines of a body that returns a truth value. -/
def returnLines (f : ContractFunction) : List Text :=
  if occursIn "bool" (lower f.returns) then [[], ("        return true;" : Text)] else []

/-- The body of a function, block by block. -/
lemma bodyTextLines_eq (rules : RuleSet) (f : ContractFunction) : bodyTextLines rules f =
    (preconditionBlock rules f.preconditions).map statement ++ unfinishedLine ::
      ((rules.hints f.name ++ eventBlock f.events).map statement ++ returnLines f) := by
  have hunfinished : statement unfinished = unfinishedLine := by decide
  have hreturn : (returnBlock f.returns).map statement = returnLines f := by
    rw [returnBlock, returnLines]
    split_ifs
    · decide
    · rfl
  rw [← hreturn, ← hunfinished]
  simp [bodyTextLines, bodyLines]

end

/-! ### The lines of what was read -/

/-- The lines of a function scaffold: the documentation comment, tag by tag; the line of
the declaration; a body in which, behind the block of the preconditions, the mark of an
unfinished body stands, every other line is a comment or empty, and a truth value is
returned at the end where one is returned at all; and the line that ends it. -/
def IsScaffold (rules : RuleSet) (f : ContractFunction) (ls : List Text) : Prop :=
  ∃ (header : Text) (rest : List Text),
    ls = ("/**" : Text) :: tagLines f ++ ("     */" : Text) :: header ::
        ((preconditionBlock rules f.preconditions).map statement ++ unfinishedLine ::
          (rest ++ returnLines f)) ++ [endLine]
      ∧ ("    function " : Text) <+: header ∧ (" \x7b" : Text) <:+ header
      ∧ ∀ l ∈ (preconditionBlock rules f.preconditions).map statement ++ rest, IsInertLine l

/-- A function whose texts stand on one line. -/
lemma isScaffold_functionText {rules : RuleSet} (hrules : rules.IsInert) {f : ContractFunction}
    (hf : ∀ t ∈ f.texts, '\n' ∉ t) : IsScaffold rules f ((functionText rules f).splitOn '\n') := by
  have hconditions : ∀ t ∈ f.preconditions, '\n' ∉ t :=
    fun t ht => hf t (by simp [ContractFunction.texts, ht])
  have hevents : ∀ t ∈ f.events, '\n' ∉ t :=
    fun t ht => hf t (by simp [ContractFunction.texts, ht])
  refine ⟨headerLine rules f, (rules.hints f.name ++ eventBlock f.events).map statement, ?_,
    prefix_headerLine rules f, List.suffix_append _ _, fun l hl => ?_⟩
  · rw [splitOn_functionText hrules.newline_notMem hf, functionLines, bodyTextLines_eq]
    simp only [docTextLines, List.append_assoc, List.cons_append, List.nil_append]
  · rw [← List.map_append] at hl
    obtain ⟨m, hm, rfl⟩ := List.mem_map.mp hl
    refine isInertLine_statement ?_
    rcases List.mem_append.mp hm with hm | hm
    · exact comment_of_mem_preconditionBlock hrules hconditions hm
    · exact comment_of_mem_rest hrules hevents hm

/-- A comment behind an indentation. -/
lemma comment_dropWhile (n : ℕ) {l : Text} (hl : IsComment l) :
    ("//" : Text) <+: (List.replicate n ' ' ++ l).dropWhile (· == ' ') := by
  obtain ⟨t, rfl⟩ := hl.2
  have hstop : ("//" ++ t : Text).dropWhile (· == ' ') = "//" ++ t :=
    List.dropWhile_cons_of_neg (by decide)
  rw [List.dropWhile_append_of_pos (by simp), hstop]
  exact List.prefix_append _ t

/-- Comments joined at an indentation, cut into lines again. -/
lemma comment_of_mem_joinWith (n : ℕ) {ls : List Text} (hls : ∀ l ∈ ls, IsComment l) {l : Text}
    (hl : l ∈ (joinWith ('\n' :: List.replicate n ' ') ls).splitOn '\n') :
    l = [] ∨ ("//" : Text) <+: l.dropWhile (· == ' ') := by
  cases ls with
  | nil => exact Or.inl (by simpa [joinWith] using hl)
  | cons m ms =>
      have hlines : ∀ k ∈ m :: ms.map (List.replicate n ' ' ++ ·), '\n' ∉ k := by
        intro k hk
        rcases List.mem_cons.mp hk with rfl | hk
        · exact (hls k (by simp)).1
        · obtain ⟨c, hc, rfl⟩ := List.mem_map.mp hk
          exact List.not_mem_append (by simp) (hls c (List.mem_cons_of_mem m hc)).1
      rw [joinWith_break, unlines, joinWith, List.splitOn_intercalate '\n' hlines (by simp)] at hl
      rcases List.mem_cons.mp hl with rfl | hl
      · exact Or.inr (comment_dropWhile 0 (hls l (by simp)))
      · obtain ⟨c, hc, rfl⟩ := List.mem_map.mp hl
        exact Or.inr (comment_dropWhile n (hls c (List.mem_cons_of_mem m hc)))

/-- The body of the constructor, where postconditions stand on one line. -/
lemma comment_of_mem_constructorLogic {s : Spec}
    (hs : ∀ f ∈ s.functions, ∀ t ∈ f.postconditions, '\n' ∉ t) {l : Text}
    (hl : l ∈ (constructorLogic s).splitOn '\n') :
    l = [] ∨ ("//" : Text) <+: l.dropWhile (· == ' ') := by
  cases hfound : s.constructor? with
  | none =>
      have hone : (constructorLogic s).splitOn '\n' = [("// No constructor logic" : Text)] := by
        rw [constructorLogic, hfound]
        decide
      rw [hone, List.mem_singleton] at hl
      exact Or.inr (by rw [hl]; decide)
  | some f =>
      have hbreak : ("\n" ++ statementIndent : Text) = '\n' :: List.replicate 8 ' ' := by decide
      have hcomment : ∀ m ∈ f.postconditions.map comment, IsComment m := by
        intro m hm
        obtain ⟨t, ht, rfl⟩ := List.mem_map.mp hm
        exact isComment_comment (hs f (List.mem_of_find?_eq_some hfound) t ht)
      rw [constructorLogic, hfound, hbreak] at hl
      exact comment_of_mem_joinWith 8 hcomment hl

/-- **Generated sources are inert**: for every text, every function that is read from it
and all rules that add comments only, the lines of the function are those of a scaffold,
and every line of the constructor's body is empty or a comment behind its indentation. No
text of a document begins a line of its own in a body. -/
theorem functionText_lines (t : Text) (rules : RuleSet) (hrules : rules.IsInert) :
    (∀ f ∈ (Spec.ofText t).functions, IsScaffold rules f ((functionText rules f).splitOn '\n'))
      ∧ ∀ l ∈ (constructorLogic (Spec.ofText t)).splitOn '\n',
          l = [] ∨ ("//" : Text) <+: l.dropWhile (· == ' ') := by
  have hnormal : (Spec.ofText t).IsNormal :=
    Spec.isNormal_ofDocument fun _ hx => Document.newline_notMem_heading hx
  have hlines : ∀ f ∈ (Spec.ofText t).functions, ∀ u ∈ f.texts, '\n' ∉ u :=
    fun f hf u hu => (hnormal.tidy_function hf u hu).line
  refine ⟨fun f hf => isScaffold_functionText hrules (hlines f hf), fun l hl => ?_⟩
  refine comment_of_mem_constructorLogic (fun f hf u hu => hlines f hf u ?_) hl
  simp [ContractFunction.texts, hu]

/-- A text in which fields end comments and bodies, with carriage returns in it and a
constructor behind the function. -/
def unrulyText : Text :=
  "## Function: f(bool x)\r\n- Description: */\n- **Events**: \x7d\n" ++
    "- Precondition: caller must be owner\r\n- Returns: Bool\r//\n" ++
    "##Function: constructor()\n- Postcondition: a, b"

/-- The function of that text. -/
def unrulyFunction : ContractFunction :=
  ⟨"f", "*/", [⟨"bool", "x"⟩], ["caller must be owner"], [], [], ["\x7d"], "Bool\r//"⟩

/-- The unruly text has its function and its constructor on their own lines. -/
theorem functionText_lines_unruly :
    RuleSet.standard.IsInert
      ∧ unrulyFunction ∈ (Spec.ofText unrulyText).functions
      ∧ IsScaffold RuleSet.standard unrulyFunction
          ((functionText RuleSet.standard unrulyFunction).splitOn '\n')
      ∧ ("        // b" : Text) ∈ (constructorLogic (Spec.ofText unrulyText)).splitOn '\n'
      ∧ (("        // b" : Text) = [] ∨
          ("//" : Text) <+: ("        // b" : Text).dropWhile (· == ' ')) := by
  have hlines := functionText_lines unrulyText RuleSet.standard RuleSet.isInert_standard
  have hfunction : unrulyFunction ∈ (Spec.ofText unrulyText).functions := by decide
  have hlogic : ("        // b" : Text)
      ∈ (constructorLogic (Spec.ofText unrulyText)).splitOn '\n' := by decide
  exact ⟨RuleSet.isInert_standard, hfunction, hlines.1 _ hfunction, hlogic, hlines.2 _ hlogic⟩

end Scaffold

end ContractScaffold
