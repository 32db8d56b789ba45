/-
The bundled templates: their literals are sealed, and their families fill all their
placeholders.

* `IsFilledBy`: a template with sealed literals whose placeholders the family fills.
* `isFilledBy_sourceOf`: a template is filled by a family where each of its lines is.
* `isFilledBy_erc20Source`, `isFilledBy_vaultSource`: the bundled templates, line by line.
* `bundled_eq`, `bundled_spec`: the shelf of these templates, under names that call for
  their families.
-/
import ContractScaffold.Template.Store
import ContractScaffold.Proofs.Template.Literals

namespace ContractScaffold

open Text

namespace Template

/-! ### Lines of a template -/

/-- A template with sealed literals and only placeholders that the family fills. -/
structure IsFilledBy (family : Family) (source : Text) : Prop where
  seals : sealsBraces (pieces source) = true
  fills : ∀ name ∈ placeholders source, name ∈ family.tokens

/-- The same for a line, its end included, as a check. -/
def isFilledLine (family : Family) (l : Text) : Bool :=
  sealsBraces (pieces l ++ [.plain '\n']) && (placeholders l).all family.tokens.elem

/-- The pieces of a source are those of its lines. -/
lemma pieces_sourceOf (ls : List String) :
    pieces (sourceOf ls) = ls.flatMap fun l => pieces l.toList ++ [.plain '\n'] := by
  induction ls with
  | nil => rfl
  | cons l ls ih =>
      have hsource : sourceOf (l :: ls) = l.toList ++ '\n' :: sourceOf ls := by
        simp [sourceOf]
      rw [hsource, pieces_append_break, ih, List.flatMap_cons, List.append_assoc]
      rfl

/-- A template is filled by a family line by line. -/
lemma isFilledBy_sourceOf {family : Family} {ls : List String}
    (h : ∀ l ∈ ls, isFilledLine family l.toList = true) : IsFilledBy family (sourceOf ls) := by
  have hline : ∀ l ∈ ls, sealsBraces (pieces l.toList ++ [.plain '\n']) = true
      ∧ ∀ name ∈ placeholders l.toList, name ∈ family.tokens := fun l hl => by
    simpa [isFilledLine] using h l hl
  constructor
  · rw [pieces_sourceOf]
    exact sealsBraces_flatMap fun l hl => (hline l hl).1
  · intro name hname
    obtain ⟨p, hp, hp'⟩ := List.mem_filterMap.mp hname
    rw [pieces_sourceOf, List.mem_flatMap] at hp
    obtain ⟨l, hl, hp⟩ := hp
    rcases List.mem_append.mp hp with hp | hp
    · exact (hline l hl).2 name (List.mem_filterMap.mpr ⟨p, hp, hp'⟩)
    · rw [List.mem_singleton.mp hp] at hp'
      exact absurd hp' (by simp [Piece.name?])

/-- A line that is given by its characters. -/
lemma isFilledLine_ofList {family : Family} {l : Text} (h : isFilledLine family l = true) :
    isFilledLine family (String.ofList l).toList = true := by
  rwa [String.toList_ofList]

/-! ### The two templates -/

/-- The token template. -/
lemma isFilledBy_erc20Source : IsFilledBy .erc20 erc20Source := by
  refine isFilledBy_sourceOf ?_
  unfold erc20Lines
  simp only [List.forall_mem_cons, List.not_mem_nil, false_implies, implies_true, and_true]
  and_intros <;> exact isFilledLine_ofList (by decide +kernel)

/-- The vault template. -/
lemma isFilledBy_vaultSource : IsFilledBy .vault vaultSource := by
  refine isFilledBy_sourceOf ?_
  unfold vaultLines
  simp only [List.forall_mem_cons, List.not_mem_nil, false_implies, implies_true, and_true]
  and_intros <;> exact isFilledLine_ofList (by decide +kernel)

end Template

namespace Shelf

/-- The bundled templates in the order of their names. -/
lemma bundled_eq : bundled
    = [(vaultTemplate, Template.vaultSource), (erc20Template, Template.erc20Source)] := by
  have hne : erc20Template ≠ vaultTemplate := by decide
  have hlt : vaultTemplate < erc20Template := by decide
  simp [bundled, ofList, insert, hne, hlt]

/-- **Every bundled template** is found under its name, which calls for a family that fills
it. -/
lemma bundled_spec {name source : Text} (h : (name, source) ∈ bundled) :
    bundled.load name = .ok source ∧ Template.IsFilledBy (Family.ofTemplate name) source := by
  have hne : (erc20Template == vaultTemplate) = false := by decide
  have herc20 : Family.ofTemplate erc20Template = .erc20 := by decide
  have hvault : Family.ofTemplate vaultTemplate = .vault := by decide
  simp only [bundled_eq, List.mem_cons, List.not_mem_nil, or_false, Prod.mk.injEq] at h
  rcases h with ⟨rfl, rfl⟩ | ⟨rfl, rfl⟩
  · rw [hvault]
    exact ⟨by simp [load, bundled_eq], Template.isFilledBy_vaultSource⟩
  · rw [herc20]
    exact ⟨by simp [load, bundled_eq, List.lookup, hne], Template.isFilledBy_erc20Source⟩

end Shelf

end ContractScaffold
