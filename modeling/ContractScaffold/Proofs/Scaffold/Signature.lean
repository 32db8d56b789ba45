/-
Parameter lists: what is read from a list, written into a declaration and read again.

* `Parameter.Declares`: the parameter that one piece of a list declares, by the words of the piece.
* `Parameter.forall₂_declares_list`: a list has one parameter for every piece, in order.
* `Parameter.ofText_signature`: a parameter that was read is read again from what it is written
  as; `ContractFunction.list_parameterList` is the same for a whole list.
* `declarationHeading`, `ofHeading?_declarationHeading`: a declaration as the heading of a function
  section.
* `parameters_normalise`: reading and writing parameter lists, and declarations of functions that
  were read.
-/
import ContractScaffold.Scaffold
import ContractScaffold.Proofs.Spec.Edit
import ContractScaffold.Proofs.Spec.Written

namespace ContractScaffold

open Text

/-! ### One parameter -/

namespace Parameter

/-- What a piece of a parameter list declares: nothing where it has no word, a type where it has
one, and else a type of all words but the last, with single spaces between them, and a name. -/
inductive Declares (t : Text) : Parameter → Prop
  | nothing (h : words t = []) : Declares t ⟨[], []⟩
  | type {w : Text} (h : words t = [w]) : Declares t ⟨w, []⟩
  | typeAndName {ws : List Text} {w : Text} (h : words t = ws ++ [w]) (hne : ws ≠ []) :
      Declares t ⟨joinWith " " ws, w⟩

variable {s t : Text} {p : Parameter}

lemma declares_ofText (t : Text) : Declares t (ofText t) := by
  rcases List.eq_nil_or_concat' (words t) with hwords | ⟨ws, w, hwords⟩
  · rw [ofText_of_words_nil hwords]
    exact .nothing hwords
  · by_cases hne : ws = []
    · subst hne
      rw [ofText_of_words_singleton hwords]
      exact .type hwords
    · rw [ofText_of_words_concat hwords hne]
      exact .typeAndName hwords hne

/-- The words of the type and the name are the words of the piece. -/
lemma Declares.words_eq (h : Declares t p) : words p.type ++ words p.name = words t := by
  cases h with
  | nothing h => exact h.symm
  | @type w h =>
      have hw : IsWord w := isWord_of_mem_words (t := t) (by simp [h])
      rw [words_of_isWord hw, h]
      rfl
  | @typeAndName ws w h _ =>
      obtain ⟨hws, hw⟩ := isWord_of_words_eq h
      rw [words_joinWith hws, words_of_isWord hw, h]

/-- The texts of a parameter are made of its piece, and of the spaces between words. -/
lemma Declares.mem_texts (h : Declares t p) {u : Text} (hu : u ∈ p.texts) {c : Char} (hc : c ∈ u) :
    c = ' ' ∨ c ∈ t := by
  have hword : ∀ {w}, w ∈ words t → c ∈ w → c = ' ' ∨ c ∈ t := fun hw hc =>
    Or.inr (mem_of_mem_words hw hc)
  cases h with
  | nothing h => simp [texts] at hu; simp [hu] at hc
  | @type w h =>
      rcases (by simpa [texts] using hu : u = w ∨ u = []) with rfl | rfl
      · exact hword (by simp [h]) hc
      · simp at hc
  | @typeAndName ws w h _ =>
      rcases (by simpa [texts] using hu : u = joinWith " " ws ∨ u = w) with rfl | rfl
      · rcases mem_joinWith hc with hc | ⟨v, hv, hc⟩
        · exact Or.inl (by simpa using hc)
        · exact hword (by simp [h, hv]) hc
      · exact hword (by simp [h]) hc

/-- **A parameter that was read is read again** from what it is written as. -/
lemma ofText_signature (t : Text) : ofText (ofText t).signature = ofText t :=
  ofText_congr ((words_signature _).trans (declares_ofText t).words_eq)

/-! ### Parameter lists -/

/-- The pieces of a parameter list: none where it is blank. -/
def pieces (s : Text) : List Text :=
  if isAllBlank s then [] else s.splitOn ','

lemma list_eq (s : Text) : list s = (pieces s).map ofText := by
  rw [list, pieces]
  split_ifs <;> rfl

/-- There is one parameter for every piece of a list, in order. -/
lemma forall₂_declares_list (s : Text) : List.Forall₂ Declares (pieces s) (list s) := by
  rw [list_eq, List.forall₂_map_right_iff, List.forall₂_same]
  exact fun t _ => declares_ofText t

lemma pieces_eq_nil_iff : pieces s = [] ↔ isAllBlank s = true := by
  rw [pieces]
  split_ifs with hblank
  · simp [hblank]
  · simp [hblank, List.splitOn_ne_nil]

lemma comma_notMem_of_mem_pieces (ht : t ∈ pieces s) : ',' ∉ t := by
  rw [pieces] at ht
  split_ifs at ht with hblank
  · simp at ht
  · exact fun hc => absurd (mem_splitOnP ht hc).2 (by simp)

lemma comma_notMem_signature (ht : t ∈ pieces s) : ',' ∉ (ofText t).signature := by
  intro hc
  rcases mem_signature hc with hc | ⟨u, hu, hc⟩
  · exact absurd hc (by decide)
  · rcases (declares_ofText t).mem_texts hu hc with hc | hc
    · exact absurd hc (by decide)
    · exact comma_notMem_of_mem_pieces ht hc

end Parameter

namespace ContractFunction

variable {f : ContractFunction}

/-- **Parameters that were read are read again** from the list that they are written as. -/
lemma list_parameterList {s : Text} (hf : f.parameters = Parameter.list s) :
    Parameter.list f.parameterList = f.parameters := by
  refine Parameter.list_commaList_of_read ?_ ?_ (hf ▸ Parameter.list_ne_empty s)
  · rw [hf, Parameter.list_eq]
    exact List.forall_mem_map.mpr fun t _ => Parameter.ofText_signature t
  · rw [hf, Parameter.list_eq]
    exact List.forall_mem_map.mpr fun t ht => Parameter.comma_notMem_signature ht

end ContractFunction

/-! ### Declarations -/

namespace Scaffold

/-- A declaration as the heading of a function section: the word of such headings stands in place of
the word that begins it. -/
def declarationHeading (declaration : Text) : Text :=
  functionWord ++ declaration.drop ("function" : Text).length

variable {f : ContractFunction}

/-- A declaration holds the name of its function and then, in parentheses, the parameter list. -/
lemma exists_signature_eq_parameterList (rules : RuleSet) (f : ContractFunction) : ∃ rest,
    signature rules f = "function " ++ f.name ++ '(' :: (f.parameterList ++ ')' :: rest) := by
  have hassoc : ∀ a b c d e : Text, a ++ b ++ "(" ++ c ++ ") public" ++ d ++ e =
      a ++ b ++ '(' :: (c ++ ')' :: (" public" ++ d ++ e)) := by
    intros
    simp
  exact ⟨_, hassoc _ _ _ _ _⟩

/-- The declaration of a function whose texts do not end its parts early is read, as a heading, with
the parameter list of the function. -/
lemma ofHeading?_declarationHeading (rules : RuleSet) (hname : '(' ∉ f.name)
    (hparameters : ∀ p ∈ f.parameters, p.IsNormal) :
    ∃ name, ContractFunction.ofHeading? (declarationHeading (signature rules f)) =
      some (name, f.parameterList) := by
  obtain ⟨rest, hrest⟩ := exists_signature_eq_parameterList rules f
  have hheading : declarationHeading (signature rules f) =
      functionWord ++ ContractScaffold.signature (' ' :: f.name) f.parameterList rest := by
    rw [declarationHeading, hrest]
    rfl
  have hread : IsSignature (' ' :: f.name) f.parameterList :=
    ⟨by simp, by simp [hname], fun hc => (ContractFunction.of_mem_parameterList hparameters _ hc).1
      rfl⟩
  have hparts := ofHeading?_signature (w := functionWord) (by decide) hread rest
  rw [ContractFunction.withoutCodeQuotes_parameterList hparameters] at hparts
  exact ⟨_, hheading ▸ hparts⟩

end Scaffold

/-- The parameters of a function that was read are those of a list. -/
lemma Spec.exists_parameters_eq {markdown : Text} {f : ContractFunction}
    (hf : f ∈ (Spec.ofText markdown).functions) : ∃ s, f.parameters = Parameter.list s := by
  obtain ⟨x, _, hx⟩ := List.mem_filterMap.mp hf
  simp only [ContractFunction.ofSection?, Option.bind_eq_bind, Option.bind_eq_some_iff] at hx
  obtain ⟨⟨name, parameters⟩, -, hx⟩ := hx
  obtain rfl := Option.some.inj hx
  exact ⟨parameters, rfl⟩

/-- **Parameter lists normalise.** A list, whatever it is, has one parameter for every piece between
commas, in order, with the words of that piece, and none exactly where it is blank. Written again
it gives the same parameters, so that writing what was read and reading it changes nothing more.
The written list stands in the declaration of the function, and the declaration of every function of
a document is read, as the heading of a section, with the parameters of that function. -/
theorem parameters_normalise (s : Text) (f : ContractFunction) (rules : RuleSet)
    (markdown : Text) :
    let read := { f with parameters := Parameter.list s }
    Parameter.list read.parameterList = Parameter.list s ∧
      { f with parameters := Parameter.list read.parameterList }.parameterList =
        read.parameterList ∧
      (Parameter.list s = [] ↔ isAllBlank s = true) ∧
      List.Forall₂ Parameter.Declares (if isAllBlank s then [] else s.splitOn ',')
        (Parameter.list s) ∧
      (∃ rest, Scaffold.signature rules read =
        "function " ++ f.name ++ '(' :: (read.parameterList ++ ')' :: rest)) ∧
      ((Spec.ofText markdown).functions.map fun g =>
          (ContractFunction.ofHeading?
            (Scaffold.declarationHeading (Scaffold.signature rules g))).map fun heading =>
              Parameter.list heading.2) =
        (Spec.ofText markdown).functions.map fun g => some g.parameters := by
  intro read
  have hread : Parameter.list read.parameterList = Parameter.list s :=
    ContractFunction.list_parameterList (f := read) rfl
  refine ⟨hread, by rw [hread], ?_, Parameter.forall₂_declares_list s,
    Scaffold.exists_signature_eq_parameterList rules read, List.map_congr_left fun g hg => ?_⟩
  · rw [Parameter.list_eq, List.map_eq_nil_iff, Parameter.pieces_eq_nil_iff]
  · have hnormal := (Spec.isNormal_ofDocument fun _ hx => Document.newline_notMem_heading hx :
      (Spec.ofText markdown).IsNormal).functions g hg
    obtain ⟨t, ht⟩ := Spec.exists_parameters_eq hg
    obtain ⟨name, hheading⟩ :=
      Scaffold.ofHeading?_declarationHeading rules hnormal.name hnormal.parameters
    rw [hheading, Option.map_some, ContractFunction.list_parameterList ht]

/-- Pieces of a list without a word, with one and with several. -/
example : Parameter.list "address, , uint256[]  memory ids" =
    [⟨"address", []⟩, ⟨[], []⟩, ⟨"uint256[] memory", "ids"⟩] := by
  decide

end ContractScaffold
