/-
Reading the document of a specification back.

* `IsSection`, `document_written`: headings and lines of which a document gets exactly
  the sections that were written.
* `ContractFunction.ofSection?_written`: a function section, read again.
* `Spec.body_toMarkdown`, `Spec.functions_toMarkdown`: the sections of a specification in
  normal form, read again by their headings and one by one.
* `Spec.kept`, `Spec.ofText_toMarkdown`: what is kept of a specification in normal form
  that is written down and read again.
* `Spec.IsWritable`, `Spec.ofText_toMarkdown_iff`: exactly the specifications in normal
  form that have nothing to lose are read back from their documents.
-/
import ContractScaffold.Proofs.Spec.Append
import ContractScaffold.Proofs.Spec.Written

namespace ContractScaffold

open Text

/-! ### The lines of the document -/

/-- The heading of a written line. -/
lemma headingOf?_headingLine (heading : Text) :
    headingOf? (headingLine heading) = some (trim heading) := by
  refine headingOf?_eq_some_iff.mpr ⟨0, by decide, ' ' :: heading, ?_, by simp, ?_⟩
  · simp [headingLine]
  · rw [trim_space_cons]

/-- Lines below headings, none of which opens a section. -/
lemma segment_written {ss : List (Text × List Text)}
    (hss : ∀ x ∈ ss, ∀ l ∈ x.2, headingOf? l = none) :
    segment (ss.flatMap fun x => headingLine x.1 :: x.2)
      = ([], ss.map fun x => (trim x.1, x.2)) := by
  induction ss with
  | nil => rfl
  | cons x ss ih =>
      have ih := ih fun y hy => hss y (List.mem_cons_of_mem x hy)
      have hfront : (segment (ss.flatMap fun x => headingLine x.1 :: x.2)).1 = [] := by rw [ih]
      rw [List.flatMap_cons, List.cons_append, segment_heading (headingOf?_headingLine x.1),
        segment_append hfront, segment_of_lines (hss x (by simp)), ih]
      rfl

lemma isLine_headingLine {heading : Text} (h : Tidy heading) : IsLine (headingLine heading) := by
  have hfront : IsLine ("## " : Text) := ⟨by decide, by decide, by decide⟩
  exact hfront.append h

lemma isLine_bulletLine {item : Text} (h : Tidy item) : IsLine (bulletLine item) := by
  have hfront : IsLine ("- " : Text) := ⟨by decide, by decide, by decide⟩
  exact hfront.append h

lemma isLine_declarationLine {declaration description : Text} (hd : '\n' ∉ declaration)
    (hd' : Tidy description) : IsLine (declarationLine declaration description) := by
  have hfront : IsLine ("- \x60" ++ declaration ++ "\x60 - " : Text) := by
    refine ⟨by simp, by simp [hd], ?_⟩
    rw [List.getLast?_append_of_ne_nil _ (by decide)]
    decide
  exact hfront.append hd'

lemma isLine_of_mem_fieldLine {x : Field} {l : Text} (hlabel : '\n' ∉ x.label)
    (hvalue : Tidy x.value) (hl : l ∈ fieldLine x) : IsLine l := by
  obtain ⟨htidy, hne⟩ := Field.tidy_of_mem_fieldLine hlabel hvalue hl
  exact isLine_of_tidy htidy hne

/-- A line of a hyphen list opens no section. -/
lemma headingOf?_hyphen_cons (l : Text) : headingOf? ('-' :: l) = none :=
  headingOf?_cons_eq_none (by decide) (by decide) l

/-- A heading and the lines below it as a document can hold them: each on a line of its
own, and no other heading among the lines. -/
structure IsSection (x : Text × List Text) : Prop where
  heading : Tidy x.1
  lines : ∀ l ∈ x.2, IsLine l
  no_heading : ∀ l ∈ x.2, headingOf? l = none

/-- The lines of sections are segmented into these sections. -/
lemma document_written {ss : List (Text × List Text)} (hss : ∀ x ∈ ss, IsSection x) :
    Document.ofText (unlines (ss.flatMap fun x => headingLine x.1 :: x.2))
      = ⟨[], ss.map fun x => ⟨x.1, Document.block x.2⟩⟩ := by
  have hlines : ∀ l ∈ ss.flatMap (fun x => headingLine x.1 :: x.2), IsLine l := by
    intro l hl
    obtain ⟨x, hx, hl⟩ := List.mem_flatMap.mp hl
    rcases List.mem_cons.mp hl with rfl | hl
    · exact isLine_headingLine (hss x hx).heading
    · exact (hss x hx).lines l hl
  rw [Document.ofText_eq_ofLines, lines_unlines hlines, Document.ofLines,
    segment_written fun x hx => (hss x hx).no_heading, List.map_map]
  refine congrArg (Document.mk []) (List.map_congr_left fun x hx => ?_)
  rw [Function.comp_apply, trim_of_trimmed (hss x hx).heading.toTrimmed]

/-- The lines of a hyphen list below a heading. -/
lemma isSection_map {α : Type*} {heading : Text} {line : α → Text} {xs : List α}
    (hheading : Tidy heading) (hline : ∀ x ∈ xs, IsLine (line x))
    (hhyphen : ∀ x, ∃ t, line x = '-' :: t) : IsSection (heading, xs.map line) := by
  refine ⟨hheading, fun l hl => ?_, fun l hl => ?_⟩
  · obtain ⟨x, hx, rfl⟩ := List.mem_map.mp hl
    exact hline x hx
  · obtain ⟨x, -, rfl⟩ := List.mem_map.mp hl
    obtain ⟨t, ht⟩ := hhyphen x
    rw [ht]
    exact headingOf?_hyphen_cons t

lemma isSection_bullets {heading : Text} {ts : List Text} (hheading : Tidy heading)
    (hts : ∀ t ∈ ts, Tidy t) : IsSection (heading, ts.map bulletLine) :=
  isSection_map hheading (fun t ht => isLine_bulletLine (hts t ht)) fun _ => ⟨_, rfl⟩

lemma StateVariable.isSection {heading : Text} {vs : List StateVariable} (hheading : Tidy heading)
    (hvs : ∀ v ∈ vs, ∀ t ∈ v.texts, Tidy t) : IsSection (heading, vs.map documentLine) := by
  refine isSection_map hheading (fun v hv => ?_) fun _ => ⟨_, rfl⟩
  have htype := (hvs v hv v.type (by simp [texts])).line
  have hname := (hvs v hv v.name (by simp [texts])).line
  exact isLine_declarationLine (by simp [htype, hname]) (hvs v hv _ (by simp [texts]))

lemma Event.isSection {heading : Text} {es : List Event} (hheading : Tidy heading)
    (hes : ∀ e ∈ es, ∀ t ∈ e.texts, Tidy t) : IsSection (heading, es.map documentLine) := by
  refine isSection_map hheading (fun e he => ?_) fun _ => ⟨_, rfl⟩
  have hname := (hes e he e.name (by simp [texts])).line
  have hparameters := (hes e he e.parameters (by simp [texts])).line
  exact isLine_declarationLine (by simp [hname, hparameters]) (hes e he _ (by simp [texts]))

namespace ContractFunction

/-- The items of the lists of a function. -/
lemma item_spec {f : ContractFunction} (hf : f.IsNormal) (htexts : ∀ t ∈ f.texts, Tidy t) :
    ∀ t ∈ f.preconditions ++ f.postconditions ++ f.events, Tidy t ∧ t ≠ [] ∧ ',' ∉ t := by
  intro t ht
  refine ⟨htexts t ?_, hf.items t ht⟩
  simp only [texts, List.mem_append] at ht ⊢
  tauto

/-- The items of a function section have labels and tidy values. -/
lemma writtenFields_spec {f : ContractFunction} (hf : f.IsNormal) (htexts : ∀ t ∈ f.texts, Tidy t) :
    ∀ x ∈ f.writtenFields, Field.IsLabel x.label ∧ Tidy x.value := by
  have hitems : ∀ ts ⊆ f.preconditions ++ f.postconditions ++ f.events, Tidy (commaList ts) :=
    fun ts hsub => tidy_commaList fun t ht =>
      (item_spec hf htexts t (hsub ht)).imp_right And.left
  intro x hx
  have hlabel : x.label ∈ fieldLabels := List.mem_map_of_mem (f := Field.label) hx
  refine ⟨isLabel_of_sameLetters hlabel (by simp [sameLetters]), ?_⟩
  simp only [writtenFields, List.mem_cons, List.not_mem_nil, or_false] at hx
  rcases hx with rfl | rfl | rfl | rfl | rfl | rfl
  · exact htexts f.description (by simp [texts])
  · exact hitems f.preconditions (by simp)
  · exact hitems f.postconditions (by simp)
  · exact htexts f.security (by simp [texts])
  · exact hitems f.events (by simp)
  · exact htexts f.returns (by simp [texts])

lemma isSection {f : ContractFunction} (hf : f.IsNormal) (htexts : ∀ t ∈ f.texts, Tidy t) :
    IsSection (f.heading, f.writtenFields.flatMap fieldLine) := by
  refine ⟨tidy_heading htexts, fun l hl => ?_, fun l hl => ?_⟩
  · obtain ⟨x, hx, hl⟩ := List.mem_flatMap.mp hl
    obtain ⟨hlabel, hvalue⟩ := writtenFields_spec hf htexts x hx
    refine isLine_of_mem_fieldLine (fun hc => ?_) hvalue hl
    exact absurd (hlabel.chars _ hc) (by decide)
  · obtain ⟨x, hx, hl⟩ := List.mem_flatMap.mp hl
    rw [fieldLine] at hl
    split_ifs at hl
    · simp at hl
    · obtain rfl := List.mem_singleton.mp hl
      exact headingOf?_hyphen_cons _

/-- What is left of a function when its section is read back: code quotes around its
name are lost. -/
def unquoted (f : ContractFunction) : ContractFunction :=
  { f with name := trim (strip isCodeQuote f.name) }

/-- What stands under a label in a written section. -/
lemma single_written {f : ContractFunction} (hf : f.IsNormal) (htexts : ∀ t ∈ f.texts, Tidy t)
    (label : Text) :
    Field.single (Field.list (Document.block (f.writtenFields.flatMap fieldLine))) label
      = Field.single f.writtenFields label := by
  have hlabels : fieldLabels.Pairwise fun a b => sameLetters a b = false := by decide
  have hdistinct : f.writtenFields.Pairwise fun x y => sameLetters x.label y.label = false :=
    (List.pairwise_map (f := Field.label) (R := fun a b => sameLetters a b = false)).mp hlabels
  rw [Field.list_written (writtenFields_spec hf htexts), Field.single_filter label hdistinct]

/-- **A written function section is read back**, but for code quotes around the name. -/
lemma ofSection?_written {f : ContractFunction} (hf : f.IsNormal)
    (htexts : ∀ t ∈ f.texts, Tidy t) :
    ofSection? ⟨f.heading, Document.block (f.writtenFields.flatMap fieldLine)⟩
      = some f.unquoted := by
  have hitems : ∀ ts ⊆ f.preconditions ++ f.postconditions ++ f.events,
      Field.items (commaList ts) = ts :=
    fun ts hsub => Field.items_commaList fun t ht => item_spec hf htexts t (hsub ht)
  have hparameters : Parameter.list f.parameterList = f.parameters :=
    Parameter.list_commaList hf.parameters hf.parameters_ne
  have hname : Trimmed f.name := (htexts f.name (by simp [texts])).toTrimmed
  simp only [ofSection?, ofHeading?_heading hf hname, Option.bind_eq_bind, Option.bind_some,
    Field.several, single_written hf htexts, hparameters]
  have hpreconditions : Field.items (Field.single f.writtenFields preconditionLabel)
      = f.preconditions := hitems f.preconditions (by simp)
  have hpostconditions : Field.items (Field.single f.writtenFields postconditionLabel)
      = f.postconditions := hitems f.postconditions (by simp)
  have hevents : Field.items (Field.single f.writtenFields eventsLabel) = f.events :=
    hitems f.events (by simp)
  rw [hpreconditions, hpostconditions, hevents]
  rfl

end ContractFunction

/-! ### The sections of the document -/

namespace Spec

variable {s : Spec}

/-- What is written for a specification in normal form is sections. -/
lemma isSection_of_mem_writtenSections (hs : s.IsNormal) :
    ∀ x ∈ s.writtenSections, IsSection x := by
  intro x hx
  have hheading := tidy_of_mem_fixedHeadings
  simp only [fixedHeadings, List.forall_mem_cons] at hheading
  obtain ⟨hname, hsecurity, hvariables, hevents, hinvariants, -⟩ := hheading
  simp only [writtenSections, List.mem_append, List.mem_cons, List.not_mem_nil, or_false,
    List.mem_map] at hx
  rcases hx with ((rfl | rfl) | ⟨f, hf, rfl⟩) | rfl | rfl | rfl
  · have hword := hs.isWord_contractName
    obtain ⟨c, t, hcons⟩ := List.exists_cons_of_ne_nil hs.contractName.1
    have hc : isWordChar c = true := hs.contractName.2 c (by simp [hcons])
    refine ⟨hname, ?_, ?_⟩
    · simpa using isLine_of_tidy hword.tidy hword.ne_nil
    · have hspace : c ≠ ' ' := by rintro rfl; exact absurd hc (by decide)
      have hsign : c ≠ '#' := by rintro rfl; exact absurd hc (by decide)
      simpa [hcons] using headingOf?_cons_eq_none hspace hsign t
  · exact isSection_bullets hsecurity hs.tidy_securityRequirement
  · exact ContractFunction.isSection (hs.functions f hf) (hs.tidy_function hf)
  · exact StateVariable.isSection hvariables fun v hv => hs.tidy_stateVariable hv
  · exact Event.isSection hevents fun e he => hs.tidy_event he
  · exact isSection_bullets hinvariants hs.tidy_stateInvariant

/-- The written document has the written sections. -/
lemma document_toMarkdown (hs : s.IsNormal) : Document.ofText s.toMarkdown
    = ⟨[], s.writtenSections.map fun x => ⟨x.1, Document.block x.2⟩⟩ :=
  document_written (isSection_of_mem_writtenSections hs)

/-- The heading of a function begins with another letter than the fixed headings. -/
lemma sameLetters_heading (f : ContractFunction) {heading : Text} (hmem : heading ∈ fixedHeadings) :
    sameLetters f.heading (trim heading) = false := by
  have hfirst : ∀ heading ∈ fixedHeadings, (trim heading).head?.map Char.toLower ≠ some 'f' := by
    decide
  rw [Bool.eq_false_iff, Ne, sameLetters, beq_iff_eq]
  intro h
  have hhead := congrArg List.head? h
  rw [List.head?_map, List.head?_map] at hhead
  exact hfirst heading hmem hhead.symm

/-- The text under each of the fixed headings. -/
lemma body_toMarkdown (hs : s.IsNormal) :
    ∀ x ∈ [(contractNameHeading, [s.contractName]),
        (securityHeading, s.securityRequirements.map bulletLine),
        (stateVariablesHeading, s.stateVariables.map StateVariable.documentLine),
        (eventsHeading, s.events.map Event.documentLine),
        (invariantsHeading, s.stateInvariants.map bulletLine)],
      (Document.ofText s.toMarkdown).body x.1 = Document.block x.2 := by
  intro x hx
  have hmem : x.1 ∈ fixedHeadings := List.mem_map_of_mem (f := Prod.fst) hx
  rw [document_toMarkdown hs, writtenSections, List.map_append, List.map_append,
    Document.body_of_others]
  · simp only [List.mem_cons, List.not_mem_nil, or_false] at hx
    rcases hx with rfl | rfl | rfl | rfl | rfl <;> rfl
  · intro y hy
    rw [List.map_map] at hy
    obtain ⟨f, -, rfl⟩ := List.mem_map.mp hy
    exact sameLetters_heading f hmem

/-! ### Reading the document back -/

/-- The name of the contract is read back. -/
lemma contractName_written {name : Text} (hne : name ≠ [])
    (hname : ∀ c ∈ name, isWordChar c = true) :
    recordName (((trimmedLines (Document.block [name])).find? fun l => !l.isEmpty).getD [])
      = name := by
  have hword : IsWord name := ⟨hne, fun c hc => isBlank_of_isWordChar (hname c hc)⟩
  have hblock : Document.block [name] = unlines [name] := by
    rw [Document.block, unlines, joinWith, List.intercalate_singleton,
      trim_of_trimmed hword.trimmed]
  have hlines : lines (unlines [name]) = [name] :=
    lines_unlines (by simpa using isLine_of_tidy hword.tidy hne)
  have hrecord : recordName name = name := by
    have hjoin : joinWith "_" [name] = name := List.intercalate_singleton
    rw [recordName, words_of_isWord hword, hjoin, List.filter_eq_self.mpr hname]
    simp [hne]
  have hfind : ((trimmedLines (Document.block [name])).find? fun l => !l.isEmpty) = some name := by
    simp [trimmedLines, hblock, hlines, trim_of_trimmed hword.trimmed, hne]
  rw [hfind, Option.getD_some, hrecord]

/-- The functions are read back, but for code quotes around their names. -/
lemma functions_toMarkdown (hs : s.IsNormal) :
    (Document.ofText s.toMarkdown).functions = s.functions.map ContractFunction.unquoted := by
  have hread : ∀ f ∈ s.functions, ContractFunction.ofSection?
      ⟨f.heading, Document.block (f.writtenFields.flatMap fieldLine)⟩ = some f.unquoted :=
    fun f hf => ContractFunction.ofSection?_written (hs.functions f hf) (hs.tidy_function hf)
  have hfixed : ∀ heading ∈ fixedHeadings, ∀ body,
      ContractFunction.ofSection? ⟨heading, body⟩ = none := by
    have hnone : ∀ heading ∈ fixedHeadings, ContractFunction.ofHeading? heading = none := by decide
    intro heading hmem body
    simp [ContractFunction.ofSection?, hnone heading hmem]
  simp only [fixedHeadings, List.forall_mem_cons] at hfixed
  obtain ⟨hname, hsecurity, hvariables, hevents, hinvariants, -⟩ := hfixed
  rw [document_toMarkdown hs, Document.functions, writtenSections]
  simp only [List.map_append, List.map_cons, List.map_nil, List.map_map, List.filterMap_append,
    List.filterMap_cons, List.filterMap_nil, hname, hsecurity, hvariables, hevents, hinvariants,
    List.nil_append, List.append_nil, List.filterMap_map]
  exact (List.filterMap_congr hread).trans (List.filterMap_eq_map ▸ rfl)

/-- Bullets without code quotes are read back as invariants. -/
lemma invariants_written {ts : List Text} (hts : ∀ t ∈ ts, Tidy t ∧ '\x60' ∉ t) :
    (bullets (Document.block (ts.map bulletLine))).map (fun t => trim (withoutCodeQuotes t))
      = ts := by
  rw [bullets_written fun t ht => (hts t ht).1]
  refine (List.map_congr_left fun t ht => ?_).trans (List.map_id ts)
  have hquotes : withoutCodeQuotes t = t := by
    refine List.filter_eq_self.mpr fun c hc => ?_
    have hne : c ≠ '\x60' := fun h => (hts t ht).2 (h ▸ hc)
    simp [isCodeQuote, hne]
  rw [hquotes, trim_of_trimmed (hts t ht).1.toTrimmed, id]

/-- What is kept of a specification that is written down and read again: not the code
quotes around the names of functions, and no events without a name. -/
def kept (s : Spec) : Spec :=
  { s with
    functions := s.functions.map ContractFunction.unquoted
    events := s.events.filter fun e => !e.name.isEmpty }

/-- **The document of a specification** in normal form, read again. -/
lemma ofText_toMarkdown (hs : s.IsNormal) : ofText s.toMarkdown = s.kept := by
  have hbody := body_toMarkdown hs
  simp only [List.forall_mem_cons] at hbody
  obtain ⟨hname, hsecurity, hvariables, hevents, hinvariants, -⟩ := hbody
  rw [ofText, ofDocument, kept, Spec.mk.injEq, Document.contractName, Document.stateInvariants,
    hname, hsecurity, hvariables, hevents, hinvariants]
  refine ⟨?_, ?_, ?_, ?_, ?_, ?_⟩
  · exact contractName_written hs.contractName.1 hs.contractName.2
  · exact bullets_written hs.tidy_securityRequirement
  · exact functions_toMarkdown hs
  · exact StateVariable.list_written hs.stateVariables fun v hv => hs.tidy_stateVariable hv
  · exact Event.list_written hs.events fun e he => hs.tidy_event he
  · exact invariants_written fun t ht => ⟨hs.tidy_stateInvariant t ht, hs.stateInvariants t ht⟩

/-- Code quotes around a name and an event without a name are lost; signs in a text are
not. -/
example : ofText (toMarkdown ⟨"Vault", ["**a**: ## - b"],
      [⟨"\x60f\x60", "d - e", [⟨"u", []⟩], [], [], [], [], []⟩], [], [⟨[], "u", "e"⟩], []⟩)
    = ⟨"Vault", ["**a**: ## - b"], [⟨"f", "d - e", [⟨"u", []⟩], [], [], [], [], []⟩], [], [],
        []⟩ := by
  decide

/-- A specification that can be written down: in normal form, no code quote at either
end of the name of a function, and a name for every event. -/
structure IsWritable (s : Spec) : Prop extends s.IsNormal where
  function_names : ∀ f ∈ s.functions, (∀ c ∈ f.name.head?, isCodeQuote c = false) ∧
    ∀ c ∈ f.name.getLast?, isCodeQuote c = false
  event_names : ∀ e ∈ s.events, e.name ≠ []

/-- A name that keeps everything has no code quote at either end. -/
lemma ends_of_unquoted_eq {f : ContractFunction} (h : f.unquoted = f) :
    (∀ c ∈ f.name.head?, isCodeQuote c = false) ∧ ∀ c ∈ f.name.getLast?, isCodeQuote c = false := by
  have hname : trim (strip isCodeQuote f.name) = f.name := congrArg ContractFunction.name h
  have hstrip : strip isCodeQuote f.name = f.name := by
    refine List.infix_antisymm (isInfix_strip isCodeQuote f.name) ?_
    have hinner := isInfix_trim (strip isCodeQuote f.name)
    rwa [hname] at hinner
  rw [← hstrip]
  exact ⟨fun c hc => strip_head hc, fun c hc => strip_last hc⟩

lemma kept_of_isWritable (hs : s.IsWritable) : s.kept = s := by
  have hfunctions : s.functions.map ContractFunction.unquoted = s.functions := by
    refine (List.map_congr_left fun f hf => ?_).trans (List.map_id s.functions)
    obtain ⟨hhead, hlast⟩ := hs.function_names f hf
    have hname : Tidy f.name :=
      hs.toIsNormal.tidy_function hf f.name (by simp [ContractFunction.texts])
    rw [ContractFunction.unquoted, strip_of_ends hhead hlast, trim_of_trimmed hname.toTrimmed, id]
  have hevents : s.events.filter (fun e => !e.name.isEmpty) = s.events :=
    List.filter_eq_self.mpr fun e he => by simpa using hs.event_names e he
  rw [kept, hfunctions, hevents]

lemma isWritable_of_kept (hs : s.IsNormal) (h : s.kept = s) : s.IsWritable := by
  have hfunctions : s.functions.map ContractFunction.unquoted = s.functions.map id :=
    (congrArg functions h).trans (List.map_id s.functions).symm
  have hevents : s.events.filter (fun e => !e.name.isEmpty) = s.events := congrArg events h
  refine ⟨hs, fun f hf => ends_of_unquoted_eq (List.map_inj_left.mp hfunctions f hf), ?_⟩
  intro e he
  simpa using List.filter_eq_self.mp hevents e he

/-- **The round trip**: exactly the specifications that can be written down are read back
from their documents, whatever dashes, colons, stars or signs stand in their texts. -/
theorem ofText_toMarkdown_iff (s : Spec) : ofText s.toMarkdown = s ↔ s.IsWritable := by
  constructor
  · intro h
    have hs : s.IsNormal := by
      rw [← h]
      exact isNormal_ofDocument fun _ hx => Document.newline_notMem_heading hx
    exact isWritable_of_kept hs ((ofText_toMarkdown hs).symm.trans h)
  · intro hs
    rw [ofText_toMarkdown hs.toIsNormal, kept_of_isWritable hs]

end Spec

end ContractScaffold
