/-
The normal form of a specification that was read from a text: what holds of every
field of it, whatever the text.

* `texts`: all the texts that a record holds.
* `Parameter.IsNormal` to `Spec.IsNormal`: the normal form of the parts and of the
  whole.
* `Field.tidy_of_mem_list`, `Field.items_spec`: what the labelled items of a section
  and their comma-separated values leave.
* `Parameter.isNormal_of_mem_list`, `StateVariable.isNormal_of_ofLine?`,
  `Event.isNormal_of_ofLine?`, `ContractFunction.isNormal_of_ofSection?`: what each
  reader leaves.
* `Spec.isNormal_ofDocument`, `Spec.ofText_isNormal`: every specification that is read
  is in normal form, and all its texts are tidy.
-/
import ContractScaffold.Spec.Reading
import ContractScaffold.Proofs.Document
import ContractScaffold.Proofs.Identifier

namespace ContractScaffold

open Text

/-! ### The normal form -/

/-- The texts of a parameter. -/
def Parameter.texts (p : Parameter) : List Text :=
  [p.type, p.name]

/-- The texts of a function. -/
def ContractFunction.texts (f : ContractFunction) : List Text :=
  [f.name, f.description, f.security, f.returns] ++ f.parameters.flatMap Parameter.texts ++
    f.preconditions ++ f.postconditions ++ f.events

/-- The texts of a state variable. -/
def StateVariable.texts (v : StateVariable) : List Text :=
  [v.name, v.type, v.description]

/-- The texts of an event. -/
def Event.texts (e : Event) : List Text :=
  [e.name, e.parameters, e.description]

/-- The texts of a specification. -/
def Spec.texts (s : Spec) : List Text :=
  s.contractName :: s.securityRequirements ++ s.functions.flatMap ContractFunction.texts ++
    s.stateVariables.flatMap StateVariable.texts ++ s.events.flatMap Event.texts ++
    s.stateInvariants

/-- A parameter as a signature can write it: words without separators, of which the
last is the name unless there is only one. -/
structure Parameter.IsNormal (p : Parameter) : Prop where
  chars : ∀ t ∈ p.texts, ∀ c ∈ t, c ≠ ',' ∧ c ≠ ')' ∧ c ≠ '\x60'
  type_words : p.type = joinWith " " (words p.type)
  name_word : ∀ c ∈ p.name, isBlank c = false
  name_of_type : p.type = [] → p.name = []
  type_of_name : p.name = [] → (words p.type).length ≤ 1

/-- A function whose heading and whose lists can be cut apart again. -/
structure ContractFunction.IsNormal (f : ContractFunction) : Prop where
  name : '(' ∉ f.name
  parameters : ∀ p ∈ f.parameters, p.IsNormal
  parameters_ne : f.parameters ≠ [⟨[], []⟩]
  items : ∀ t ∈ f.preconditions ++ f.postconditions ++ f.events, t ≠ [] ∧ ',' ∉ t

/-- A state variable with a type, a name and a description. -/
structure StateVariable.IsNormal (v : StateVariable) : Prop where
  name : IsWord v.name
  type : v.type ≠ []
  type_words : v.type = joinWith " " (words v.type)
  unquoted : '\x60' ∉ v.name ∧ '\x60' ∉ v.type
  description : v.description ≠ []

/-- An event whose name and parameters can be told apart, with a description. -/
structure Event.IsNormal (e : Event) : Prop where
  name : '(' ∉ e.name ∧ '\x60' ∉ e.name
  parameters : ')' ∉ e.parameters
  description : e.description ≠ []

/-- **The normal form** of a specification. -/
structure Spec.IsNormal (s : Spec) : Prop where
  contractName : s.contractName ≠ [] ∧ ∀ c ∈ s.contractName, isWordChar c = true
  texts : ∀ t ∈ s.texts, Tidy t
  functions : ∀ f ∈ s.functions, f.IsNormal
  stateVariables : ∀ v ∈ s.stateVariables, v.IsNormal
  events : ∀ e ∈ s.events, e.IsNormal
  stateInvariants : ∀ t ∈ s.stateInvariants, '\x60' ∉ t

/-! ### Texts of the parts -/

/-- The characters of a signature are those of the parameter, and spaces. -/
lemma Parameter.mem_signature {p : Parameter} {c : Char} (h : c ∈ p.signature) :
    c = ' ' ∨ ∃ t ∈ p.texts, c ∈ t := by
  have hc := mem_of_mem_trim h
  simp only [String.reduceToList, List.mem_append, List.mem_singleton] at hc
  rcases hc with (hc | hc) | hc
  · exact Or.inr ⟨p.type, by simp [texts], hc⟩
  · exact Or.inl hc
  · exact Or.inr ⟨p.name, by simp [texts], hc⟩

/-- The characters of a parameter list are those of the parameters, and separators. -/
lemma ContractFunction.mem_parameterList {f : ContractFunction} {c : Char}
    (h : c ∈ f.parameterList) :
    c = ',' ∨ c = ' ' ∨ ∃ p ∈ f.parameters, ∃ t ∈ p.texts, c ∈ t := by
  rcases mem_joinWith h with h | ⟨u, hu, hc⟩
  · have hsep : c = ',' ∨ c = ' ' := by simpa using h
    exact hsep.imp_right Or.inl
  · obtain ⟨p, hp, rfl⟩ := List.mem_map.mp hu
    rcases Parameter.mem_signature hc with hc | ⟨t, ht, hc⟩
    · exact Or.inr (Or.inl hc)
    · exact Or.inr (Or.inr ⟨p, hp, t, ht, hc⟩)

namespace Spec

variable {s : Spec}

lemma mem_texts_of_mem_functions {f : ContractFunction} (hf : f ∈ s.functions) {t : Text}
    (ht : t ∈ f.texts) : t ∈ s.texts := by
  simp only [Spec.texts, List.mem_append, List.mem_flatMap]
  exact Or.inl (Or.inl (Or.inl (Or.inr ⟨f, hf, ht⟩)))

lemma mem_texts_of_mem_stateVariables {v : StateVariable} (hv : v ∈ s.stateVariables) {t : Text}
    (ht : t ∈ v.texts) : t ∈ s.texts := by
  simp only [Spec.texts, List.mem_append, List.mem_flatMap]
  exact Or.inl (Or.inl (Or.inr ⟨v, hv, ht⟩))

lemma mem_texts_of_mem_events {e : Event} (he : e ∈ s.events) {t : Text} (ht : t ∈ e.texts) :
    t ∈ s.texts := by
  simp only [Spec.texts, List.mem_append, List.mem_flatMap]
  exact Or.inl (Or.inr ⟨e, he, ht⟩)

lemma IsNormal.tidy_function (hs : s.IsNormal) {f : ContractFunction} (hf : f ∈ s.functions) :
    ∀ t ∈ f.texts, Tidy t :=
  fun t ht => hs.texts t (mem_texts_of_mem_functions hf ht)

lemma IsNormal.tidy_stateVariable (hs : s.IsNormal) {v : StateVariable}
    (hv : v ∈ s.stateVariables) : ∀ t ∈ v.texts, Tidy t :=
  fun t ht => hs.texts t (mem_texts_of_mem_stateVariables hv ht)

lemma IsNormal.tidy_event (hs : s.IsNormal) {e : Event} (he : e ∈ s.events) :
    ∀ t ∈ e.texts, Tidy t :=
  fun t ht => hs.texts t (mem_texts_of_mem_events he ht)

lemma IsNormal.tidy_securityRequirement (hs : s.IsNormal) :
    ∀ t ∈ s.securityRequirements, Tidy t :=
  fun t ht => hs.texts t (by simp [Spec.texts, ht])

lemma IsNormal.tidy_stateInvariant (hs : s.IsNormal) : ∀ t ∈ s.stateInvariants, Tidy t :=
  fun t ht => hs.texts t (by simp [Spec.texts, ht])

lemma IsNormal.isWord_contractName (hs : s.IsNormal) : IsWord s.contractName :=
  ⟨hs.contractName.1, fun c hc => isBlank_of_isWordChar (hs.contractName.2 c hc)⟩

end Spec

/-! ### Labelled items -/

namespace Field

lemma dropStrong_suffix (t : Text) : dropStrong t <:+ t := by
  unfold dropStrong
  split
  · next u => exact ⟨['*', '*'], rfl⟩
  · exact List.suffix_rfl

/-- The value of a labelled item is a rear part of its line, trimmed. -/
lemma exists_value_of_ofLine? {line : Text} {f : Field} (h : ofLine? line = some f) :
    ∃ u, u <:+ line ∧ f.value = trim u := by
  simp only [ofLine?, Option.bind_eq_bind, Option.bind_eq_some_iff, after?_eq_some_iff] at h
  obtain ⟨item, hitem, -, -, value, hvalue, h⟩ := h
  obtain ⟨w, hw, h⟩ := h
  obtain rfl := Option.some.inj h
  -- each step of the reader leaves a rear part of what it was given
  have hline : value <:+ line :=
    (suffix_of_dropWhile_eq hvalue).trans ((dropStrong_suffix _).trans
      ((List.dropWhile_suffix _).trans ((dropStrong_suffix _).trans
        ((List.dropWhile_suffix _).trans (suffix_of_dropWhile_eq hitem)))))
  rw [valueOf?] at hw
  split_ifs at hw with hnil <;> obtain rfl := Option.some.inj hw
  · exact ⟨value, hline, rfl⟩
  · exact ⟨dropStrong value, (dropStrong_suffix _).trans hline, rfl⟩

lemma tidy_of_mem_list {body : Text} {f : Field} (hf : f ∈ list body) : Tidy f.value := by
  obtain ⟨line, hline, h⟩ := List.mem_filterMap.mp hf
  obtain ⟨u, hu, hvalue⟩ := exists_value_of_ofLine? h
  rw [hvalue]
  refine tidy_trim fun hc => ?_
  simpa using (mem_splitOnP hline (hu.subset hc)).2

lemma tidy_single (body label : Text) : Tidy (single (list body) label) := by
  rw [single]
  split
  · next f hf => exact tidy_of_mem_list (List.mem_of_find?_eq_some hf)
  · exact tidy_nil

/-- The items of a comma-separated value. -/
lemma items_spec {value t : Text} (hvalue : Tidy value) (ht : t ∈ items value) :
    Tidy t ∧ t ≠ [] ∧ ',' ∉ t := by
  rw [items] at ht
  split_ifs at ht with hnil hcomma
  · simp at ht
  · obtain ⟨hpiece, hne⟩ := List.mem_filter.mp ht
    obtain ⟨piece, hmem, rfl⟩ := List.mem_map.mp hpiece
    refine ⟨tidy_trim fun hc => hvalue.line (mem_splitOnP hmem hc).1, by simpa using hne,
      fun hc => ?_⟩
    simpa using (mem_splitOnP hmem (mem_of_mem_trim hc)).2
  · rw [List.mem_singleton.mp ht]
    exact ⟨hvalue, hnil, by simpa using hcomma⟩

end Field

/-! ### Entries of the list sections -/

/-- A trimmed line of a section is tidy. -/
lemma tidy_of_mem_trimmedLines {body line : Text} (h : line ∈ trimmedLines body) : Tidy line := by
  obtain ⟨l, hl, rfl⟩ := List.mem_map.mp h
  exact tidy_trim (newline_notMem_of_mem_lines hl)

lemma tidy_of_mem_bullets {body t : Text} (ht : t ∈ bullets body) : Tidy t := by
  obtain ⟨line, hline, h⟩ := List.mem_filterMap.mp ht
  obtain ⟨item, hitem, rfl⟩ := Option.map_eq_some_iff.mp h
  rw [after?_eq_some_iff] at hitem
  refine tidy_trim fun hc => (tidy_of_mem_trimmedLines hline).line ?_
  rw [hitem]
  exact List.mem_cons_of_mem _ hc

/-- The description of an entry on a tidy line is tidy, and there is one. -/
lemma description?_spec {line rest d : Text} (hline : Tidy line) (hrest : rest <:+ line)
    (h : description? rest = some d) : Tidy d ∧ d ≠ [] := by
  simp only [description?, Option.bind_eq_bind, Option.bind_eq_some_iff, after?_eq_some_iff] at h
  obtain ⟨u, hu, h⟩ := h
  split_ifs at h with hnil
  obtain rfl := Option.some.inj h
  have hsuf : u <:+ line := (suffix_of_dropWhile_eq hu).trans hrest
  exact ⟨tidy_trim fun hc => hline.line (hsuf.subset hc), hline.trim_suffix_ne_nil hsuf hnil⟩

/-- The text between code quotes holds none, and what follows them is a rear part of
the line. -/
lemma quoted?_spec {t declaration rest : Text} (h : quoted? t = some (declaration, rest)) :
    '\x60' ∉ declaration ∧ rest <:+ t := by
  simp only [quoted?, Option.bind_eq_bind, Option.bind_eq_some_iff, after?_eq_some_iff] at h
  obtain ⟨u, hu, v, hv, h⟩ := h
  obtain ⟨rfl, rfl⟩ := Prod.mk.inj (Option.some.inj h)
  have hsuf : u <:+ t := suffix_of_dropWhile_eq hu
  refine ⟨fun hc => ?_, (suffix_of_dropWhile_eq hv).trans hsuf⟩
  simpa using List.mem_takeWhile_imp hc

lemma typeAndName_concat (ws : List Text) (w : Text) :
    typeAndName (ws ++ [w]) = (joinWith " " ws, w) := by
  simp [typeAndName]

/-- The type of a declaration is made of the words before the last. -/
lemma isWord_of_words_eq {t w : Text} {ws : List Text} (h : words t = ws ++ [w]) :
    (∀ v ∈ ws, IsWord v) ∧ IsWord w :=
  ⟨fun v hv => isWord_of_mem_words (t := t) (by simp [h, hv]),
    isWord_of_mem_words (t := t) (by simp [h])⟩

/-- A type of at least one word is not empty. -/
lemma joinWith_words_ne_nil {ws : List Text} (hws : ∀ w ∈ ws, IsWord w) (hne : ws ≠ []) :
    joinWith " " ws ≠ [] := by
  intro h
  have hwords := words_joinWith hws
  rw [h] at hwords
  exact hne hwords.symm

/-- Words joined by single spaces, taken apart and joined again. -/
lemma joinWith_words_joinWith {ws : List Text} (hws : ∀ w ∈ ws, IsWord w) :
    joinWith " " (words (joinWith " " ws)) = joinWith " " ws := by
  rw [words_joinWith hws]

namespace StateVariable

lemma isNormal_of_ofLine? {line : Text} {v : StateVariable} (hline : Tidy line)
    (h : ofLine? line = some v) : v.IsNormal ∧ ∀ t ∈ v.texts, Tidy t := by
  simp only [ofLine?, Option.bind_eq_bind, Option.bind_eq_some_iff, after?_eq_some_iff] at h
  obtain ⟨item, rfl, ⟨declaration, rest⟩, hquoted, description, hdescription, h⟩ := h
  obtain ⟨hquote, hrest⟩ := quoted?_spec hquoted
  obtain ⟨hd, hdne⟩ := description?_spec hline (hrest.trans (List.suffix_cons _ _)) hdescription
  rcases List.eq_nil_or_concat' (words declaration) with hwords | ⟨ws, w, hwords⟩
  · simp [hwords, typeAndName, joinWith] at h
  · rw [hwords, typeAndName_concat] at h
    split_ifs at h with hnil
    obtain rfl := Option.some.inj h
    obtain ⟨hws, hw⟩ := isWord_of_words_eq hwords
    have hunquoted : ∀ u ∈ words declaration, '\x60' ∉ u :=
      fun u hu hc => hquote (mem_of_mem_words hu hc)
    refine ⟨⟨hw, hnil, (joinWith_words_joinWith hws).symm, ⟨?_, ?_⟩, hdne⟩, ?_⟩
    · exact hunquoted w (by simp [hwords])
    · intro hc
      rcases mem_joinWith hc with hc | ⟨u, hu, hc⟩
      · simp at hc
      · exact hunquoted u (by simp [hwords, hu]) hc
    · simp only [texts, List.mem_cons, List.not_mem_nil, or_false]
      rintro t (rfl | rfl | rfl)
      · exact hw.tidy
      · exact joinWith_words_tidy hws
      · exact hd

end StateVariable

namespace Event

lemma isNormal_of_ofLine? {line : Text} {e : Event} (hline : Tidy line)
    (h : ofLine? line = some e) : e.IsNormal ∧ ∀ t ∈ e.texts, Tidy t := by
  simp only [ofLine?, Option.bind_eq_bind, Option.bind_eq_some_iff, after?_eq_some_iff] at h
  obtain ⟨item, rfl, t, ht, -, -, inner, hinner, closed, hclosed, rest, hrest, d, hd, h⟩ := h
  obtain rfl := Option.some.inj h
  have htail : t <:+ '-' :: item :=
    (suffix_of_dropWhile_eq ht).trans (List.suffix_cons '-' item)
  have hinner' : inner <:+ '-' :: item := (suffix_of_dropWhile_eq hinner).trans htail
  have hrest' : rest <:+ '-' :: item := by
    have hclosed' := (suffix_of_dropWhile_eq hclosed).trans hinner'
    rw [hrest] at hclosed'
    exact (List.suffix_cons '\x60' rest).trans hclosed'
  obtain ⟨hdtidy, hdne⟩ := description?_spec hline hrest' hd
  have hname : ∀ c ∈ t.takeWhile (fun c => c != '(' && c != '\x60'), c ≠ '(' ∧ c ≠ '\x60' :=
    fun c hc => by simpa using List.mem_takeWhile_imp hc
  have hparameters : ∀ c ∈ inner.takeWhile (· != ')'), c ≠ ')' :=
    fun c hc => by simpa using List.mem_takeWhile_imp hc
  refine ⟨⟨⟨?_, ?_⟩, ?_, hdne⟩, ?_⟩
  · exact fun hc => (hname _ (mem_of_mem_trim hc)).1 rfl
  · exact fun hc => (hname _ (mem_of_mem_trim hc)).2 rfl
  · exact fun hc => hparameters _ (mem_of_mem_trim hc) rfl
  · simp only [texts, List.mem_cons, List.not_mem_nil, or_false]
    rintro u (rfl | rfl | rfl)
    · exact tidy_trim fun hc => hline.line (htail.subset ((List.takeWhile_prefix _).subset hc))
    · exact tidy_trim fun hc => hline.line (hinner'.subset ((List.takeWhile_prefix _).subset hc))
    · exact hdtidy

end Event

/-! ### Function sections -/

namespace Parameter

lemma ofText_of_words_nil {t : Text} (h : words t = []) : ofText t = ⟨[], []⟩ := by
  simp [ofText, h, typeAndName, joinWith]

lemma ofText_of_words_singleton {t w : Text} (h : words t = [w]) : ofText t = ⟨w, []⟩ := by
  simp [ofText, h]

/-- Of several words the last is the name, and the words before it make the type. -/
lemma ofText_of_words_concat {t w : Text} {ws : List Text} (h : words t = ws ++ [w])
    (hne : ws ≠ []) : ofText t = ⟨joinWith " " ws, w⟩ := by
  rw [ofText]
  split
  · next u hu =>
      rw [h] at hu
      exact absurd (congrArg List.length hu) (by simpa using hne)
  · rw [h, typeAndName_concat]

/-- A single word as the type of a parameter. -/
lemma isNormal_of_word {w : Text} (hw : IsWord w)
    (hchars : ∀ c ∈ w, c ≠ ',' ∧ c ≠ ')' ∧ c ≠ '\x60') :
    IsNormal ⟨w, []⟩ ∧ ∀ u ∈ texts ⟨w, []⟩, Tidy u := by
  have hwords : words w = [w] := words_of_isWord hw
  refine ⟨⟨?_, ?_, by simp, fun _ => rfl, fun _ => by simp [hwords]⟩, ?_⟩
  · simpa [texts] using hchars
  · simp [hwords, joinWith]
  · simp [texts, tidy_nil, hw.tidy]

/-- Several words as the type and the name of a parameter. -/
lemma isNormal_of_words {w : Text} {ws : List Text} (hws : ∀ v ∈ ws, IsWord v) (hw : IsWord w)
    (hne : ws ≠ []) (hchars : ∀ v ∈ ws ++ [w], ∀ c ∈ v, c ≠ ',' ∧ c ≠ ')' ∧ c ≠ '\x60') :
    IsNormal ⟨joinWith " " ws, w⟩ ∧ ∀ u ∈ texts ⟨joinWith " " ws, w⟩, Tidy u := by
  refine ⟨⟨?_, (joinWith_words_joinWith hws).symm, hw.not_blank, ?_, ?_⟩, ?_⟩
  · simp only [texts, List.mem_cons, List.not_mem_nil, or_false]
    rintro u (rfl | rfl) c hc
    · rcases mem_joinWith hc with hc | ⟨v, hv, hc⟩
      · obtain rfl : c = ' ' := by simpa using hc
        decide
      · exact hchars v (by simp [hv]) c hc
    · exact hchars u (by simp) c hc
  · exact fun h => absurd h (joinWith_words_ne_nil hws hne)
  · exact fun h => absurd h hw.ne_nil
  · simp only [texts, List.mem_cons, List.not_mem_nil, or_false]
    rintro u (rfl | rfl)
    · exact joinWith_words_tidy hws
    · exact hw.tidy

/-- The parameter that a text without separators gives. -/
lemma isNormal_ofText {t : Text} (ht : ∀ c ∈ t, c ≠ ',' ∧ c ≠ ')' ∧ c ≠ '\x60') :
    (ofText t).IsNormal ∧ ∀ u ∈ (ofText t).texts, Tidy u := by
  have hchars : ∀ w ∈ words t, ∀ c ∈ w, c ≠ ',' ∧ c ≠ ')' ∧ c ≠ '\x60' :=
    fun w hw c hc => ht c (mem_of_mem_words hw hc)
  rcases List.eq_nil_or_concat' (words t) with hwords | ⟨ws, w, hwords⟩
  · rw [ofText_of_words_nil hwords]
    exact ⟨⟨by simp [texts], rfl, by simp, fun _ => rfl, fun _ => Nat.zero_le 1⟩,
      by simp [texts, tidy_nil]⟩
  · obtain ⟨hws, hw⟩ := isWord_of_words_eq hwords
    rw [hwords] at hchars
    by_cases hne : ws = []
    · subst hne
      rw [ofText_of_words_singleton hwords]
      exact isNormal_of_word hw (hchars w (by simp))
    · rw [ofText_of_words_concat hwords hne]
      exact isNormal_of_words hws hw hne hchars

/-- A text with a word in it gives a parameter with a type. -/
lemma words_eq_nil_of_ofText_type {t : Text} (h : (ofText t).type = []) : words t = [] := by
  rcases List.eq_nil_or_concat' (words t) with hwords | ⟨ws, w, hwords⟩
  · exact hwords
  · obtain ⟨hws, hw⟩ := isWord_of_words_eq hwords
    by_cases hne : ws = []
    · subst hne
      rw [ofText_of_words_singleton hwords] at h
      exact absurd h hw.ne_nil
    · rw [ofText_of_words_concat hwords hne] at h
      exact absurd h (joinWith_words_ne_nil hws hne)

/-- The parameters of a signature without closing parentheses and code quotes. -/
lemma isNormal_of_mem_list {t : Text} (ht : ∀ c ∈ t, c ≠ ')' ∧ c ≠ '\x60') {p : Parameter}
    (hp : p ∈ list t) : p.IsNormal ∧ ∀ u ∈ p.texts, Tidy u := by
  rw [list] at hp
  split_ifs at hp with hblank
  · simp at hp
  · obtain ⟨piece, hpiece, rfl⟩ := List.mem_map.mp hp
    refine isNormal_ofText fun c hc => ?_
    obtain ⟨hmem, hcomma⟩ := mem_splitOnP hpiece hc
    exact ⟨by simpa using hcomma, ht c hmem⟩

/-- A signature with a single parameter has a type in it. -/
lemma list_ne_empty (t : Text) : list t ≠ [⟨[], []⟩] := by
  intro h
  rw [list] at h
  split_ifs at h with hblank
  obtain ⟨piece, hpiece, hof⟩ := List.map_eq_singleton_iff.mp h
  have hwhole : t = piece := by
    have hjoin : [','].intercalate (t.splitOn ',') = t := List.intercalate_splitOn ','
    rw [hpiece, List.intercalate_singleton] at hjoin
    exact hjoin.symm
  subst hwhole
  have hwords : words t = [] := words_eq_nil_of_ofText_type (by rw [hof])
  exact hblank (List.all_eq_true.mpr (words_eq_nil_iff.mp hwords))

end Parameter

namespace ContractFunction

/-- The name and the parameter text of a heading on one line. -/
lemma ofHeading?_spec {heading name parameters : Text} (hline : '\n' ∉ heading)
    (h : ofHeading? heading = some (name, parameters)) :
    Tidy name ∧ '(' ∉ name ∧ ∀ c ∈ parameters, c ≠ ')' ∧ c ≠ '\x60' := by
  rw [ofHeading?] at h
  split_ifs at h
  simp only [Option.bind_eq_bind, Option.bind_eq_some_iff, after?_eq_some_iff] at h
  obtain ⟨-, -, inner, -, -, -, h⟩ := h
  obtain ⟨rfl, rfl⟩ := Prod.mk.inj (Option.some.inj h)
  refine ⟨tidy_trim fun hc => hline ?_, fun hc => ?_, fun c hc => ?_⟩
  · have hmem := mem_of_mem_trim (mem_of_mem_strip hc)
    exact (heading.drop_suffix _).subset ((List.takeWhile_prefix _).subset hmem)
  · have hmem := mem_of_mem_trim (mem_of_mem_strip (mem_of_mem_trim hc))
    simpa using List.mem_takeWhile_imp hmem
  · obtain ⟨hmem, hquote⟩ := List.mem_filter.mp hc
    exact ⟨by simpa using List.mem_takeWhile_imp hmem, by simpa [isCodeQuote] using hquote⟩

lemma isNormal_of_ofSection? {s : Section} (hline : '\n' ∉ s.heading) {f : ContractFunction}
    (h : ofSection? s = some f) : f.IsNormal ∧ ∀ t ∈ f.texts, Tidy t := by
  simp only [ofSection?, Option.bind_eq_bind, Option.bind_eq_some_iff] at h
  obtain ⟨⟨name, parameters⟩, hheading, h⟩ := h
  obtain rfl := Option.some.inj h
  obtain ⟨hname, hparen, hparameters⟩ := ofHeading?_spec hline hheading
  have hitem : ∀ label, ∀ t ∈ Field.several (Field.list s.body) label, Tidy t ∧ t ≠ [] ∧ ',' ∉ t :=
    fun label t ht => Field.items_spec (Field.tidy_single s.body label) ht
  refine ⟨⟨hparen, fun p hp => (Parameter.isNormal_of_mem_list hparameters hp).1,
    Parameter.list_ne_empty _, fun t ht => ?_⟩, fun t ht => ?_⟩
  · rcases List.mem_append.mp ht with ht | ht
    · rcases List.mem_append.mp ht with ht | ht
      · exact (hitem _ t ht).2
      · exact (hitem _ t ht).2
    · exact (hitem _ t ht).2
  · simp only [texts, List.mem_append, List.mem_cons, List.not_mem_nil, or_false,
      List.mem_flatMap] at ht
    rcases ht with (((ht | ht) | ht) | ht) | ht
    · rcases ht with rfl | rfl | rfl | rfl
      · exact hname
      · exact Field.tidy_single _ _
      · exact Field.tidy_single _ _
      · exact Field.tidy_single _ _
    · obtain ⟨p, hp, ht⟩ := ht
      exact (Parameter.isNormal_of_mem_list hparameters hp).2 t ht
    · exact (hitem _ t ht).1
    · exact (hitem _ t ht).1
    · exact (hitem _ t ht).1

end ContractFunction

/-! ### The whole specification -/

namespace Document

lemma tidy_of_mem_stateInvariants {d : Document} {t : Text} (ht : t ∈ d.stateInvariants) :
    Tidy t ∧ '\x60' ∉ t := by
  obtain ⟨item, hitem, rfl⟩ := List.mem_map.mp ht
  refine ⟨tidy_trim fun hc => (tidy_of_mem_bullets hitem).line (List.mem_filter.mp hc).1,
    fun hc => ?_⟩
  simpa [isCodeQuote] using (List.mem_filter.mp (mem_of_mem_trim hc)).2

end Document

namespace Spec

/-- A document whose headings stand on one line gives a specification in normal form. -/
lemma isNormal_ofDocument {d : Document} (hd : ∀ x ∈ d.sections, '\n' ∉ x.heading) :
    (ofDocument d).IsNormal := by
  have hfunction : ∀ f ∈ d.functions, f.IsNormal ∧ ∀ u ∈ f.texts, Tidy u := by
    intro f hf
    obtain ⟨x, hx, h⟩ := List.mem_filterMap.mp hf
    exact ContractFunction.isNormal_of_ofSection? (hd x hx) h
  have hvariable : ∀ v ∈ StateVariable.list (d.body stateVariablesHeading),
      v.IsNormal ∧ ∀ u ∈ v.texts, Tidy u := by
    intro v hv
    obtain ⟨line, hline, h⟩ := List.mem_filterMap.mp hv
    exact StateVariable.isNormal_of_ofLine? (tidy_of_mem_trimmedLines hline) h
  have hevent : ∀ e ∈ Event.list (d.body eventsHeading),
      e.IsNormal ∧ ∀ u ∈ e.texts, Tidy u := by
    intro e he
    obtain ⟨line, hline, h⟩ := List.mem_filterMap.mp he
    exact Event.isNormal_of_ofLine? (tidy_of_mem_trimmedLines hline) h
  have hname : IsName d.contractName := isName_recordName _
  refine ⟨⟨hname.ne_nil, hname.isWordChar⟩, fun u hu => ?_, fun f hf => (hfunction f hf).1,
    fun v hv => (hvariable v hv).1, fun e he => (hevent e he).1,
    fun u hu => (Document.tidy_of_mem_stateInvariants hu).2⟩
  simp only [texts, List.mem_append, List.mem_cons, List.mem_flatMap] at hu
  rcases hu with ((((rfl | hu) | ⟨f, hf, hu⟩) | ⟨v, hv, hu⟩) | ⟨e, he, hu⟩) | hu
  · exact hname.isWord.tidy
  · exact tidy_of_mem_bullets hu
  · exact (hfunction f hf).2 u hu
  · exact (hvariable v hv).2 u hu
  · exact (hevent e he).2 u hu
  · exact (Document.tidy_of_mem_stateInvariants hu).1

/-- **Everything that is read is in normal form**: for every text, however malformed,
no text of the record holds a line feed or blank space at its ends, and no part of it
holds a character that would end it early in its section. -/
theorem ofText_isNormal (t : Text) : (ofText t).IsNormal :=
  isNormal_ofDocument fun _ hx => Document.newline_notMem_heading hx

end Spec

end ContractScaffold
