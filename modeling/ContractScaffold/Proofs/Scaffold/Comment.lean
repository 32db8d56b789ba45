/-
The end of a documentation comment. A block comment ends where its end mark stands first,
and the texts of a document go into the comment of their function as they are.

* `occurrences_unlines`: what occurs in lines put together occurs in one of them.
* `documentedTexts`: the texts of a document that a documentation comment holds.
* `occurrences_docBlock`: the end marks of a comment are those of these texts and its own.
* `ClosesOnce`, `closesOnce_docBlock_iff`: a comment that ends at its end, and when it does.
* `leakText`, `not_closesOnce_leakText`: a document with a text behind the end of a comment.
-/
import ContractScaffold.Proofs.Scaffold.Lines
import ContractScaffold.Proofs.Text.Occurs

namespace ContractScaffold

open Text

namespace Text

/-- A text on one line occurs in lines put together as often as in all of them. -/
lemma occurrences_unlines {part : Text} (hne : part ≠ []) (hline : '\n' ∉ part) (ls : List Text) :
    occurrences part (unlines ls) = (ls.map (occurrences part)).sum := by
  induction ls with
  | nil => exact occurrences_eq_zero_iff.mpr fun h => hne (List.infix_nil.mp h)
  | cons l ls ih =>
      by_cases hls : ls = []
      · simp [hls, unlines, joinWith]
      · rw [unlines_cons l hls, occurrences_append_cons hline, ih, List.map_cons, List.sum_cons]

end Text

namespace Scaffold

/-- The mark that ends a block comment. -/
def commentEnd : Text := "*/"

/-- The texts of a document that stand in the documentation comment of a function. -/
def documentedTexts (f : ContractFunction) : List Text :=
  f.description :: f.parameters.flatMap Parameter.texts ++ [f.returns, f.security]

/-- A comment that ends where its end mark stands first. -/
def ClosesOnce (t : Text) : Prop :=
  occurrences commentEnd t = 1 ∧ commentEnd <:+ t

instance (t : Text) : Decidable (ClosesOnce t) :=
  inferInstanceAs (Decidable (_ ∧ _))

variable {f : ContractFunction}

/-! ### End marks line by line -/

/-- A space keeps what stands on its two sides apart. -/
lemma occurrences_append_space (s t : Text) : occurrences commentEnd (s ++ ' ' :: t)
    = occurrences commentEnd s + occurrences commentEnd t :=
  occurrences_append_cons (by decide) s t

/-- A tag adds no end mark to its text. -/
lemma occurrences_tagLine {tag : Text} (htag : occurrences commentEnd ("     * @" ++ tag) = 0)
    (t : Text) : occurrences commentEnd (tagLine tag t) = occurrences commentEnd t := by
  have hline : tagLine tag t = ("     * @" ++ tag) ++ ' ' :: t := List.append_assoc _ _ _
  rw [hline, occurrences_append_space, htag, Nat.zero_add]

/-- The notice has the end marks of the description. -/
lemma occurrences_notice (f : ContractFunction) :
    occurrences commentEnd (notice f) = occurrences commentEnd f.description := by
  have hstar : isBlank '*' = false := by decide
  have hslash : isBlank '/' = false := by decide
  have hmark : ∀ c ∈ commentEnd, isBlank c = false := by simp [commentEnd, hstar, hslash]
  have htrim := occurrences_trim (by decide : commentEnd ≠ []) hmark f.description
  rw [← htrim, notice]
  split_ifs with hblank
  · rw [List.isEmpty_iff.mp hblank]
    decide +kernel
  · rfl

/-- The lines of the parameters have the end marks of their texts. -/
lemma sum_occurrences_parameters (ps : List Parameter) :
    ((ps.map fun p => tagLine "param" (p.name ++ ' ' :: p.type)).map (occurrences commentEnd)).sum
      = ((ps.flatMap Parameter.texts).map (occurrences commentEnd)).sum := by
  induction ps with
  | nil => rfl
  | cons p ps ih =>
      rw [List.map_cons, List.map_cons, List.sum_cons, ih, occurrences_tagLine (by decide),
        occurrences_append_space, List.flatMap_cons, List.map_append, List.sum_append]
      simp [Parameter.texts, Nat.add_comm]

/-- The line of a text that may be missing has the end marks of that text. -/
lemma sum_occurrences_optional {tag : Text}
    (htag : occurrences commentEnd ("     * @" ++ tag) = 0) (t : Text) :
    ((if t = [] then [] else [tagLine tag t]).map (occurrences commentEnd)).sum
      = occurrences commentEnd t := by
  split_ifs with ht
  · rw [ht]
    decide
  · simp [occurrences_tagLine htag]

/-! ### End marks of a comment -/

/-- **The end marks of a documentation comment** are those of the texts that it holds, and
its own. -/
lemma occurrences_docBlock (f : ContractFunction) : occurrences commentEnd (docBlock f)
    = ((documentedTexts f).map (occurrences commentEnd)).sum + 1 := by
  have hopening : occurrences commentEnd ("/**" : Text) = 0 := by decide
  have hclosing : occurrences commentEnd ("     */" : Text) = 1 := by decide
  rw [docBlock_eq_unlines, occurrences_unlines (by decide) (by decide), docTextLines, tagLines]
  simp only [List.cons_append, List.map_cons, List.map_append, List.sum_cons, List.sum_append,
    List.map_nil, List.sum_nil, hopening, hclosing, sum_occurrences_parameters]
  rw [occurrences_tagLine (by decide), occurrences_notice, sum_occurrences_optional (by decide),
    sum_occurrences_optional (by decide)]
  simp only [documentedTexts, List.cons_append, List.map_cons, List.map_append, List.sum_cons,
    List.sum_append, List.map_nil, List.sum_nil]
  omega

/-- **When a documentation comment ends at its end**: it always has an end mark there, and
it has no other one where none of the texts that it holds has one. -/
theorem closesOnce_docBlock_iff (f : ContractFunction) :
    commentEnd <:+ docBlock f
      ∧ occurrences commentEnd (docBlock f)
        = ((documentedTexts f).map (occurrences commentEnd)).sum + 1
      ∧ (ClosesOnce (docBlock f) ↔ ∀ t ∈ documentedTexts f, ¬ commentEnd <:+: t) := by
  have hend : commentEnd <:+ docBlock f := by
    have hlast : commentEnd <:+ unlines [("     */" : Text)] := by decide
    rw [docBlock_eq_unlines, docTextLines, unlines_append (by simp) (by simp)]
    exact hlast.trans ((List.suffix_cons '\n' _).trans (List.suffix_append _ _))
  refine ⟨hend, occurrences_docBlock f, ?_⟩
  rw [ClosesOnce, and_iff_left hend, occurrences_docBlock]
  simp only [Nat.add_eq_right, List.sum_eq_zero_iff, List.forall_mem_map, occurrences_eq_zero_iff]

/-! ### A text behind the end -/

/-- A document whose function has a description with an end mark in it. -/
def leakText : Text :=
  "## Function: f()\n- Description: x */ uint256 leaked; /* y"

/-- The function of that document. -/
def leakFunction : ContractFunction :=
  ⟨"f", "x */ uint256 leaked; /* y", [], [], [], [], [], []⟩

/-- The comment of that function ends before the declaration in its description. -/
theorem not_closesOnce_leakText :
    ¬ ∀ t, ∀ f ∈ (Spec.ofText t).functions, ClosesOnce (docBlock f) := by
  intro h
  have hfunction : leakFunction ∈ (Spec.ofText leakText).functions := by decide
  exact absurd (h leakText leakFunction hfunction) (by decide)

end Scaffold

end ContractScaffold
