/-
Written items: every line of the document of a specification, read back.

* `filterMap_block_map`: reading the lines of a section one by one.
* `Field.ofLine?_written`, `Field.list_written`, `Field.items_commaList`: labelled items
  and comma-separated values.
* `ContractFunction.fieldLabels`: the labels of a function section, in any case of letters.
* `bullets_written`, `StateVariable.list_written`, `Event.list_written`: the entries of
  the list sections. An event without a name is not read.
* `Parameter.list_commaList`, `ContractFunction.ofHeading?_heading`: the heading of a
  function section. Code quotes around the name are not read.
-/
import ContractScaffold.Spec.Markdown
import ContractScaffold.Proofs.Spec.Normal

namespace ContractScaffold

open Text

/-! ### Lines of a section -/

/-- The lines of a block are read one by one, trimmed; what is not read from an empty
line is not touched by the blank space that the block drops. -/
lemma filterMap_block_map {α β : Type*} {read : Text → Option β} (hread : read [] = none)
    {line : α → Text} {xs : List α} (hline : ∀ x ∈ xs, '\n' ∉ line x) :
    (trimmedLines (Document.block (xs.map line))).filterMap read
      = xs.filterMap fun x => read (trim (line x)) := by
  have hlines : ∀ l ∈ xs.map line, '\n' ∉ l := by
    intro l hl
    obtain ⟨x, hx, rfl⟩ := List.mem_map.mp hl
    exact hline x hx
  rw [trimmedLines, filterMap_lines hread, Document.block, filledLines_trim,
    filledLines_unlines hlines, List.filterMap_filter, List.filterMap_map, List.filterMap_map]
  refine List.filterMap_congr fun x _ => ?_
  by_cases hl : trim (line x) = []
  · simp [hl, hread]
  · simp [hl]

/-- Trimmed lines are the pieces of the block that they make. -/
lemma splitOn_block {ls : List Text} (hls : ∀ l ∈ ls, Tidy l ∧ l ≠ []) (hne : ls ≠ []) :
    (Document.block ls).splitOn '\n' = ls := by
  have htrimmed : Trimmed (unlines ls) :=
    Trimmed.joinWith fun l hl => ⟨(hls l hl).1.toTrimmed, (hls l hl).2⟩
  rw [Document.block, trim_of_trimmed htrimmed, unlines, joinWith,
    List.splitOn_intercalate '\n' (fun l hl => (hls l hl).1.line) hne]

/-! ### Labelled items -/

namespace Field

/-- A label as an item can carry it: letters and spaces, a letter first and a letter
last. -/
structure IsLabel (label : Text) : Prop where
  chars : ∀ c ∈ label, isLabelChar c = true
  head : ∃ c ∈ label.head?, c.isAlpha = true
  trimmed : Trimmed label

instance (label : Text) : Decidable (IsLabel label) :=
  decidable_of_iff (label.all isLabelChar = true ∧ label.head?.any Char.isAlpha = true
      ∧ Trimmed label)
    ⟨fun h => ⟨by simpa using h.1, by simpa [Option.any_eq_true] using h.2.1, h.2.2⟩,
      fun h => ⟨by simpa using h.chars, by simpa [Option.any_eq_true] using h.head, h.trimmed⟩⟩

lemma isLabel_of_letters {label : Text} (hne : label ≠ []) (h : ∀ c ∈ label, c.isAlpha = true) :
    IsLabel label := by
  have hblank : ∀ c ∈ label, isBlank c = false := fun c hc =>
    isBlank_of_isWordChar (by simp [isWordChar, Char.isAlphanum, h c hc])
  obtain ⟨c, rest, rfl⟩ := List.exists_cons_of_ne_nil hne
  exact ⟨fun d hd => by simp [isLabelChar, h d hd], ⟨c, rfl, h c (by simp)⟩,
    (IsWord.mk hne hblank).trimmed⟩

/-- **A written item is read back.** -/
lemma ofLine?_written {label value : Text} (hlabel : IsLabel label) (hvalue : Trimmed value) :
    ofLine? ("- **" ++ label ++ "**: " ++ value) = some ⟨label, value⟩ := by
  obtain ⟨c, hc, halpha⟩ := hlabel.head
  have hstar : isLabelChar '*' = false := by decide
  have hline : ("- **" ++ label ++ "**: " ++ value : Text)
      = '-' :: ' ' :: '*' :: '*' :: (label ++ '*' :: '*' :: ':' :: ' ' :: value) := by simp
  have htrim : trim (' ' :: value) = value := by
    rw [trim_space_cons, trim_of_trimmed hvalue]
  rw [hline]
  simp [ofLine?, isGap, dropStrong, takeWhile_until hlabel.chars hstar,
    dropWhile_until hlabel.chars hstar, Option.mem_def.mp hc, Option.filter, halpha, valueOf?,
    htrim, trim_of_trimmed hlabel.trimmed]

/-- The line of an item begins with a hyphen, ends where its value ends, and is tidy. -/
lemma tidy_of_mem_fieldLine {x : Field} {l : Text} (hlabel : '\n' ∉ x.label) (hvalue : Tidy x.value)
    (hl : l ∈ fieldLine x) : Tidy l ∧ l ≠ [] := by
  rw [fieldLine] at hl
  split_ifs at hl with hnil
  · simp at hl
  · obtain rfl := List.mem_singleton.mp hl
    have hne : x.value ≠ [] := by simpa using hnil
    have hfront : Trimmed ("-" : Text) := by decide
    have htrimmed := hfront.append hvalue.toTrimmed (by simp) hne (" **" ++ x.label ++ "**: ")
    refine ⟨⟨by simpa using htrimmed, ?_⟩, by simp⟩
    simp [hlabel, hvalue.line]

/-- The lines of written items, read one by one. -/
lemma filterMap_fieldLines {fs : List Field} (hfs : ∀ x ∈ fs, IsLabel x.label ∧ Tidy x.value) :
    (fs.flatMap fieldLine).filterMap ofLine? = fs.filter fun x => !x.value.isEmpty := by
  induction fs with
  | nil => rfl
  | cons x fs ih =>
      obtain ⟨hlabel, hvalue⟩ := hfs x (by simp)
      have ih := ih fun y hy => hfs y (List.mem_cons_of_mem x hy)
      rw [List.flatMap_cons, List.filterMap_append, ih, fieldLine]
      by_cases hx : x.value = []
      · simp [hx]
      · simp only [List.isEmpty_iff, hx, if_false, List.filterMap_cons, List.filterMap_nil,
          ofLine?_written hlabel hvalue.toTrimmed]
        simp [hx]

/-- **Written items are read back**, but for those without a value. -/
lemma list_written {fs : List Field} (hfs : ∀ x ∈ fs, IsLabel x.label ∧ Tidy x.value) :
    list (Document.block (fs.flatMap fieldLine)) = fs.filter fun x => !x.value.isEmpty := by
  have hlines : ∀ l ∈ fs.flatMap fieldLine, Tidy l ∧ l ≠ [] := by
    intro l hl
    obtain ⟨x, hx, hl⟩ := List.mem_flatMap.mp hl
    obtain ⟨hlabel, hvalue⟩ := hfs x hx
    refine tidy_of_mem_fieldLine (fun hc => ?_) hvalue hl
    exact absurd (hlabel.chars _ hc) (by decide)
  rw [← filterMap_fieldLines hfs, list]
  by_cases hnil : fs.flatMap fieldLine = []
  · rw [hnil]
    rfl
  · rw [splitOn_block hlines hnil]

/-- Leaving out items without a value does not change what is found under a label, as
long as no label is there twice. -/
lemma single_filter {fs : List Field} (label : Text)
    (hfs : fs.Pairwise fun x y => sameLetters x.label y.label = false) :
    single (fs.filter fun x => !x.value.isEmpty) label = single fs label := by
  induction fs with
  | nil => rfl
  | cons x fs ih =>
      obtain ⟨hx, hfs⟩ := List.pairwise_cons.mp hfs
      have ih := ih hfs
      simp only [single] at ih ⊢
      by_cases hlabel : sameLetters x.label label = true
      · by_cases hnil : x.value = []
        · have hnone : (fs.filter fun x => !x.value.isEmpty).find?
              (fun y => sameLetters y.label label) = none := by
            refine List.find?_eq_none.mpr fun y hy => ?_
            have hne := hx y (List.mem_filter.mp hy).1
            simp only [sameLetters, beq_eq_false_iff_ne, beq_iff_eq] at hne hlabel ⊢
            exact fun h => hne (hlabel.trans h.symm)
          simp [hnil, hlabel, hnone]
        · simp [hnil, hlabel]
      · by_cases hnil : x.value = []
        · simpa [hnil, hlabel] using ih
        · simpa [hnil, hlabel] using ih

end Field

namespace ContractFunction

/-- The labels that are read in a function section. -/
def fieldLabels : List Text :=
  [descriptionLabel, preconditionLabel, postconditionLabel, securityLabel, eventsLabel,
    returnsLabel]

lemma letters_of_mem_fieldLabels :
    ∀ label ∈ fieldLabels, label ≠ [] ∧ label.all Char.isAlpha = true := by
  decide

/-- In any case of its letters, such a label can be carried by an item. -/
lemma isLabel_of_sameLetters {label known : Text} (hknown : known ∈ fieldLabels)
    (hlabel : sameLetters label known = true) : Field.IsLabel label := by
  obtain ⟨hne, hletters⟩ := letters_of_mem_fieldLabels known hknown
  rw [sameLetters, beq_iff_eq] at hlabel
  refine Field.isLabel_of_letters ?_ fun c hc => ?_
  · rintro rfl
    exact hne (List.map_eq_nil_iff.mp hlabel.symm)
  · have hmem : c.toLower ∈ known.map Char.toLower := hlabel ▸ List.mem_map_of_mem hc
    obtain ⟨d, hd, hdc⟩ := List.mem_map.mp hmem
    rw [← Char.isAlpha_toLower_eq_isAlpha, ← hdc, Char.isAlpha_toLower_eq_isAlpha]
    exact List.all_eq_true.mp hletters d hd

end ContractFunction

/-! ### Comma-separated lists -/

/-- The pieces of a list as one value: all but the first have the space after their
comma in front. -/
lemma splitOn_commaList {ts : List Text} (t : Text) (h : ∀ u ∈ t :: ts, ',' ∉ u) :
    (commaList (t :: ts)).splitOn ',' = t :: ts.map (' ' :: ·) := by
  have hjoin : commaList (t :: ts) = [','].intercalate (t :: ts.map (' ' :: ·)) := by
    clear h
    induction ts generalizing t with
    | nil => simp [commaList, joinWith]
    | cons u us ih =>
        have ih := ih u
        simp only [commaList, joinWith] at ih ⊢
        rw [List.intercalate_cons_cons, ih]
        simp
  rw [hjoin, List.splitOn_intercalate ',' ?_ (by simp)]
  intro u hu
  rcases List.mem_cons.mp hu with rfl | hu
  · exact h u (by simp)
  · obtain ⟨v, hv, rfl⟩ := List.mem_map.mp hu
    simpa using h v (List.mem_cons_of_mem _ hv)

/-- A list of several items has a comma in it. -/
lemma comma_mem_commaList (t u : Text) (ts : List Text) : ',' ∈ commaList (t :: u :: ts) := by
  simp [commaList, joinWith]

/-- **A written list is read back.** -/
lemma Field.items_commaList {ts : List Text} (hts : ∀ t ∈ ts, Tidy t ∧ t ≠ [] ∧ ',' ∉ t) :
    Field.items (commaList ts) = ts := by
  match ts with
  | [] => rfl
  | [t] =>
      obtain ⟨-, hne, hcomma⟩ := hts t (by simp)
      have hone : commaList [t] = t := by simp [commaList, joinWith]
      simp [Field.items, hone, hne, hcomma]
  | t :: u :: us =>
      have hmem := comma_mem_commaList t u us
      have hne : commaList (t :: u :: us) ≠ [] := List.ne_nil_of_mem hmem
      have htrim : ((t :: (u :: us).map (' ' :: ·)).map trim) = t :: u :: us := by
        rw [List.map_cons, trim_of_trimmed (hts t (by simp)).1.toTrimmed, List.map_map]
        refine congrArg (t :: ·) ?_
        refine (List.map_congr_left fun v hv => ?_).trans (List.map_id _)
        rw [Function.comp_apply, trim_space_cons, id,
          trim_of_trimmed (hts v (List.mem_cons_of_mem _ hv)).1.toTrimmed]
      rw [Field.items, if_neg hne, if_pos (by simpa using hmem),
        splitOn_commaList t fun v hv => (hts v hv).2.2, htrim, List.filter_eq_self]
      intro v hv
      simpa using (hts v hv).2.1

/-- A written list is tidy. -/
lemma tidy_commaList {ts : List Text} (hts : ∀ t ∈ ts, Tidy t ∧ t ≠ []) : Tidy (commaList ts) := by
  refine ⟨Trimmed.joinWith fun t ht => ⟨(hts t ht).1.toTrimmed, (hts t ht).2⟩, fun hc => ?_⟩
  rcases mem_joinWith hc with hc | ⟨t, ht, hc⟩
  · simp at hc
  · exact (hts t ht).1.line hc

/-! ### Entries of the list sections -/

lemma newline_notMem_bulletLine {item : Text} (h : '\n' ∉ item) : '\n' ∉ bulletLine item := by
  simp [bulletLine, h]

/-- **Written bullets are read back.** -/
lemma bullets_written {ts : List Text} (hts : ∀ t ∈ ts, Tidy t) :
    bullets (Document.block (ts.map bulletLine)) = ts := by
  have hread : ∀ t ∈ ts, ((after? '-' (trim (bulletLine t))).map trim) = some t := by
    intro t ht
    by_cases hnil : t = []
    · subst hnil
      decide
    · have hfront : Trimmed ("-" : Text) := by decide
      have htrimmed : Trimmed (bulletLine t) := by
        simpa [bulletLine] using hfront.append (hts t ht).toTrimmed (by simp) hnil " "
      have hline : bulletLine t = '-' :: ' ' :: t := by simp [bulletLine]
      rw [trim_of_trimmed htrimmed, hline, after?_cons_self, Option.map_some,
        trim_space_cons, trim_of_trimmed (hts t ht).toTrimmed]
  rw [bullets, filterMap_block_map rfl fun t ht => newline_notMem_bulletLine (hts t ht).line]
  exact (List.filterMap_congr hread).trans List.filterMap_some

/-- The line of a declaration is trimmed. -/
lemma trimmed_declarationLine (declaration : Text) {description : Text}
    (hd : Trimmed description) (hne : description ≠ []) :
    Trimmed (declarationLine declaration description) := by
  have hfront : Trimmed ("-" : Text) := by decide
  simpa [declarationLine] using
    hfront.append hd (by simp) hne (" \x60" ++ declaration ++ "\x60 - ")

lemma newline_notMem_declarationLine {declaration description : Text} (hd : '\n' ∉ declaration)
    (hd' : '\n' ∉ description) : '\n' ∉ declarationLine declaration description := by
  simp [declarationLine, hd, hd']

/-- A written description is read back. -/
lemma description?_written {d : Text} (hd : Trimmed d) :
    description? (' ' :: '-' :: ' ' :: d) = some d := by
  simp [description?, isBlank_space, show isBlank '-' = false from rfl, trim_space_cons,
    trim_of_trimmed hd]

namespace StateVariable

/-- **A written state variable is read back.** -/
lemma ofLine?_documentLine {v : StateVariable} (hv : v.IsNormal) (hd : Tidy v.description) :
    ofLine? v.documentLine = some v := by
  have hunquoted : ∀ c ∈ v.type ++ ' ' :: v.name, (c != '\x60') = true := by
    intro c hc
    simp only [List.mem_append, List.mem_cons] at hc
    rcases hc with hc | rfl | hc
    · exact bne_iff_ne.mpr fun h => hv.unquoted.2 (h ▸ hc)
    · decide
    · exact bne_iff_ne.mpr fun h => hv.unquoted.1 (h ▸ hc)
  have hline : v.documentLine = '-' :: ' ' :: '\x60' ::
      ((v.type ++ ' ' :: v.name) ++ '\x60' :: ' ' :: '-' :: ' ' :: v.description) := by
    simp [documentLine, declarationLine]
  have hquoted : quoted? (' ' :: '\x60' ::
      ((v.type ++ ' ' :: v.name) ++ '\x60' :: ' ' :: '-' :: ' ' :: v.description))
        = some (v.type ++ ' ' :: v.name, ' ' :: '-' :: ' ' :: v.description) := by
    have hquote : isBlank '\x60' = false := by decide
    simp only [quoted?, List.dropWhile_cons, isBlank_space, hquote, if_true, if_false,
      Bool.false_eq_true, after?_cons_self, Option.bind_eq_bind, Option.bind_some,
      dropWhile_until hunquoted (bne_self_eq_false _),
      takeWhile_until hunquoted (bne_self_eq_false _)]
    rfl
  have hwords : words (v.type ++ ' ' :: v.name) = words v.type ++ [v.name] := by
    rw [words_append_blank isBlank_space, words_of_isWord hv.name]
  rw [ofLine?, hline]
  simp only [after?_cons_self, Option.bind_eq_bind, Option.bind_some, hquoted,
    description?_written hd.toTrimmed, hwords, typeAndName_concat, ← hv.type_words, hv.type,
    if_false]
  rfl

lemma list_written {vs : List StateVariable} (hvs : ∀ v ∈ vs, v.IsNormal)
    (htidy : ∀ v ∈ vs, ∀ t ∈ v.texts, Tidy t) :
    list (Document.block (vs.map documentLine)) = vs := by
  have hread : ∀ v ∈ vs, ofLine? (trim v.documentLine) = some v := by
    intro v hv
    have hd : Tidy v.description := htidy v hv _ (by simp [texts])
    have htrimmed : Trimmed v.documentLine :=
      trimmed_declarationLine _ hd.toTrimmed (hvs v hv).description
    rw [trim_of_trimmed htrimmed, ofLine?_documentLine (hvs v hv) hd]
  have hline : ∀ v ∈ vs, '\n' ∉ v.documentLine := by
    intro v hv
    have htexts := htidy v hv
    refine newline_notMem_declarationLine ?_ (htexts _ (by simp [texts])).line
    simp [(htexts v.name (by simp [texts])).line, (htexts v.type (by simp [texts])).line]
  rw [list, filterMap_block_map rfl hline]
  exact (List.filterMap_congr hread).trans List.filterMap_some

end StateVariable

namespace Event

/-- **A written event is read back** where it has a name; without one its line is no
entry. -/
lemma ofLine?_documentLine {e : Event} (he : e.IsNormal) (htidy : ∀ t ∈ e.texts, Tidy t) :
    ofLine? e.documentLine = if e.name = [] then none else some e := by
  have hname : ∀ c ∈ e.name, (c != '(' && c != '\x60') = true := by
    intro c hc
    have hparen : c ≠ '(' := fun h => he.name.1 (h ▸ hc)
    have hquote : c ≠ '\x60' := fun h => he.name.2 (h ▸ hc)
    simp [hparen, hquote]
  have hparameters : ∀ c ∈ e.parameters, (c != ')') = true := by
    intro c hc
    exact bne_iff_ne.mpr fun h => he.parameters (h ▸ hc)
  have hline : e.documentLine = '-' :: ' ' :: '\x60' :: (e.name ++ '(' ::
      (e.parameters ++ ')' :: '\x60' :: ' ' :: '-' :: ' ' :: e.description)) := by
    simp [documentLine, declarationLine]
  have hquote : isBlank '\x60' = false := by decide
  have hparen : ('(' != '(' && '(' != '\x60') = false := by decide
  rw [ofLine?, hline]
  simp only [after?_cons_self, List.dropWhile_cons, isBlank_space, hquote, if_true, if_false,
    Bool.false_eq_true, Option.bind_eq_bind, Option.bind_some, dropWhile_until hname hparen,
    takeWhile_until hname hparen, dropWhile_until hparameters (bne_self_eq_false _),
    takeWhile_until hparameters (bne_self_eq_false _)]
  by_cases hnil : e.name = []
  · simp [hnil]
  · obtain ⟨c, t, hcons⟩ := List.exists_cons_of_ne_nil hnil
    have htrims : ∀ t ∈ e.texts, trim t = t := fun t ht => trim_of_trimmed (htidy t ht).toTrimmed
    simp [hcons, description?_written (htidy e.description (by simp [texts])).toTrimmed,
      htrims e.parameters (by simp [texts])]
    rw [← hcons, htrims e.name (by simp [texts])]

lemma list_written {es : List Event} (hes : ∀ e ∈ es, e.IsNormal)
    (htidy : ∀ e ∈ es, ∀ t ∈ e.texts, Tidy t) :
    list (Document.block (es.map documentLine)) = es.filter fun e => !e.name.isEmpty := by
  have hread : ∀ e ∈ es, ofLine? (trim e.documentLine) = if e.name = [] then none else some e := by
    intro e he
    have hd : Tidy e.description := htidy e he _ (by simp [texts])
    have htrimmed : Trimmed e.documentLine :=
      trimmed_declarationLine _ hd.toTrimmed (hes e he).description
    rw [trim_of_trimmed htrimmed, ofLine?_documentLine (hes e he) (htidy e he)]
  have hline : ∀ e ∈ es, '\n' ∉ e.documentLine := by
    intro e he
    have htexts := htidy e he
    refine newline_notMem_declarationLine ?_ (htexts _ (by simp [texts])).line
    simp [(htexts e.name (by simp [texts])).line, (htexts e.parameters (by simp [texts])).line]
  rw [list, filterMap_block_map rfl hline]
  refine (List.filterMap_congr hread).trans ?_
  rw [← List.filterMap_eq_filter]
  refine List.filterMap_congr fun e _ => ?_
  by_cases hnil : e.name = []
  · simp [hnil, Option.guard]
  · simp [hnil, Option.guard]

end Event

/-! ### Headings of function sections -/

namespace Parameter

lemma words_signature (p : Parameter) : words p.signature = words p.type ++ words p.name := by
  rw [signature, words_trim, List.append_assoc]
  exact words_append_blank isBlank_space p.type p.name

/-- A parameter in normal form is read from its words, whatever blank space is
between them. -/
lemma ofText_of_words {p : Parameter} (hp : p.IsNormal) {t : Text}
    (h : words t = words p.type ++ words p.name) : ofText t = p := by
  have htype : ∀ ws, words p.type = ws → p.type = joinWith " " ws :=
    fun ws hws => hws ▸ hp.type_words
  by_cases hname : p.name = []
  · have hwords : words t = words p.type := by
      rw [h, hname]
      exact List.append_nil _
    match hws : words p.type, hp.type_of_name hname with
    | [], _ =>
        rw [ofText_of_words_nil (hwords.trans hws)]
        exact congrArg₂ Parameter.mk (htype [] hws).symm hname.symm
    | [w], _ =>
        have hone : p.type = w := (htype [w] hws).trans List.intercalate_singleton
        rw [ofText_of_words_singleton (hwords.trans hws)]
        exact congrArg₂ Parameter.mk hone.symm hname.symm
  · have hword : words p.name = [p.name] := words_of_isWord ⟨hname, hp.name_word⟩
    have hne : words p.type ≠ [] := fun hnil => hname (hp.name_of_type (htype [] hnil))
    rw [ofText_of_words_concat (h.trans (by rw [hword])) hne, ← hp.type_words]

/-- Only the parameter without type and name has a blank signature. -/
lemma words_signature_ne_nil {p : Parameter} (hread : ofText p.signature = p)
    (hne : p ≠ ⟨[], []⟩) : words p.signature ≠ [] := by
  intro h
  exact hne (hread.symm.trans (ofText_of_words_nil h))

/-- A parameter list is not blank, unless it is empty or a single parameter with nothing
in it. -/
lemma isAllBlank_commaList {p : Parameter} {ps : List Parameter} (hread : ofText p.signature = p)
    (hne : p :: ps ≠ [⟨[], []⟩]) : isAllBlank (commaList ((p :: ps).map signature)) = false := by
  cases ps with
  | nil =>
      have hsignature := words_signature_ne_nil hread fun h => hne (h ▸ rfl)
      have hone : commaList ([p].map signature) = p.signature := by
        simp [commaList, joinWith]
      rw [hone, isAllBlank, Bool.eq_false_iff, Ne, List.all_eq_true, ← words_eq_nil_iff]
      exact hsignature
  | cons q ps =>
      rw [isAllBlank, List.all_eq_false]
      exact ⟨',', comma_mem_commaList _ _ _, by decide⟩

/-- The parameter of a text depends on the words of it. -/
lemma ofText_congr {t u : Text} (h : words t = words u) : ofText t = ofText u := by
  rw [ofText, ofText, h]

/-- Parameters each of which is read from its signature are read from their list, unless it is a
single parameter with nothing in it. -/
lemma list_commaList_of_read {ps : List Parameter} (hread : ∀ p ∈ ps, ofText p.signature = p)
    (hcomma : ∀ p ∈ ps, ',' ∉ p.signature) (hne : ps ≠ [⟨[], []⟩]) :
    list (commaList (ps.map signature)) = ps := by
  cases ps with
  | nil => rfl
  | cons p ps =>
      have hpieces : (commaList ((p :: ps).map signature)).splitOn ','
          = p.signature :: (ps.map signature).map (' ' :: ·) := by
        refine splitOn_commaList p.signature fun u hu => ?_
        obtain ⟨q, hq, rfl⟩ := List.mem_map.mp (List.map_cons ▸ hu)
        exact hcomma q hq
      rw [list, isAllBlank_commaList (hread p (by simp)) hne, if_neg Bool.false_ne_true, hpieces,
        List.map_cons, List.map_map, List.map_map, hread p (by simp)]
      refine congrArg (p :: ·) ((List.map_congr_left fun q hq => ?_).trans (List.map_id ps))
      exact (ofText_congr (words_blank_cons isBlank_space q.signature)).trans
        (hread q (List.mem_cons_of_mem p hq))

/-- **A written parameter list is read back**, unless it is a single parameter with
nothing in it. -/
lemma list_commaList {ps : List Parameter} (hps : ∀ p ∈ ps, p.IsNormal) (hne : ps ≠ [⟨[], []⟩]) :
    list (commaList (ps.map signature)) = ps := by
  refine list_commaList_of_read (fun p hp => ofText_of_words (hps p hp) (words_signature p))
    (fun p hp hc => ?_) hne
  rcases mem_signature hc with hc | ⟨t, ht, hc⟩
  · exact absurd hc (by decide)
  · exact ((hps p hp).chars t ht _ hc).1 rfl

end Parameter

namespace ContractFunction

/-- The heading as the reader goes through it. -/
lemma heading_eq (f : ContractFunction) :
    f.heading = functionWord ++ ((' ' :: f.name) ++ '(' :: (f.parameterList ++ ')' :: [])) := by
  simp [heading]

/-- Nothing in the list of normal parameters ends it early, and no quotes are in it. -/
lemma of_mem_parameterList {f : ContractFunction} (hf : ∀ p ∈ f.parameters, p.IsNormal) :
    ∀ c ∈ f.parameterList, c ≠ ')' ∧ c ≠ '\x60' := by
  intro c hc
  rcases mem_parameterList hc with rfl | rfl | ⟨p, hp, t, ht, hc⟩
  · decide
  · decide
  · exact ((hf p hp).chars t ht c hc).2

lemma withoutCodeQuotes_parameterList {f : ContractFunction}
    (hf : ∀ p ∈ f.parameters, p.IsNormal) : withoutCodeQuotes f.parameterList = f.parameterList :=
  List.filter_eq_self.mpr fun c hc => by simp [isCodeQuote, (of_mem_parameterList hf c hc).2]

/-- **A written heading is read back**, but for code quotes around the name. -/
lemma ofHeading?_heading {f : ContractFunction} (hf : f.IsNormal) (hname : Trimmed f.name) :
    ofHeading? f.heading = some (trim (strip isCodeQuote f.name), f.parameterList) := by
  have hletters : sameLetters functionWord functionWord = true := by decide
  have hparen : ∀ c ∈ ' ' :: f.name, (c != '(') = true := by
    intro c hc
    rcases List.mem_cons.mp hc with rfl | hc
    · decide
    · exact bne_iff_ne.mpr fun h => hf.name (h ▸ hc)
  have hclosing : ∀ c ∈ f.parameterList, (c != ')') = true :=
    fun c hc => bne_iff_ne.mpr (of_mem_parameterList hf.parameters c hc).1
  have hquotes := withoutCodeQuotes_parameterList hf.parameters
  have htake : f.heading.take functionWord.length = functionWord := by
    rw [heading_eq, List.take_left]
  have hdrop : f.heading.drop functionWord.length
      = (' ' :: f.name) ++ '(' :: (f.parameterList ++ ')' :: []) := by
    rw [heading_eq, List.drop_left]
  rw [ofHeading?, htake, hdrop, if_pos hletters]
  simp only [takeWhile_until hparen (bne_self_eq_false _), dropWhile_until hparen
    (bne_self_eq_false _), takeWhile_until hclosing (bne_self_eq_false _), dropWhile_until hclosing
    (bne_self_eq_false _), after?_cons_self, List.head?_cons, Option.bind_eq_bind,
    Option.bind_some, hquotes, trim_space_cons, trim_of_trimmed hname]
  rfl

/-- The heading of a function is tidy. -/
lemma tidy_heading {f : ContractFunction} (htexts : ∀ t ∈ f.texts, Tidy t) : Tidy f.heading := by
  have hword : Tidy functionWord := by decide
  have hclosing : Trimmed (")" : Text) := by decide
  have hparameters : '\n' ∉ f.parameterList := by
    intro hc
    rcases mem_parameterList hc with hc | hc | ⟨p, hp, t, ht, hc⟩
    · exact absurd hc (by decide)
    · exact absurd hc (by decide)
    · refine (htexts t ?_).line hc
      simp only [texts, List.mem_append, List.mem_flatMap]
      exact Or.inl (Or.inl (Or.inl (Or.inr ⟨p, hp, ht⟩)))
  refine ⟨?_, ?_⟩
  · have hwhole := hword.toTrimmed.append hclosing (by decide) (by decide)
      ((' ' :: f.name) ++ '(' :: f.parameterList)
    simpa [heading] using hwhole
  · simp [heading, hword.line, (htexts f.name (by simp [texts])).line, hparameters]

end ContractFunction

end ContractScaffold
