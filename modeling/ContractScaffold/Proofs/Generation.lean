/-
Generation from the bundled templates. Every placeholder of a bundled template is filled,
the rest of the template stays, and nothing that a document without opening braces brings
in makes a new placeholder.

* `IsFillingOf`: a source that is a template with its slots filled.
* `rendered_spec`: what a template with sealed literals gives that its family fills.
* `exists_bundled_of_blank`: where no template is asked for, a bundled one is selected.
* `bundled_complete`: rendering and generation from the bundled templates.
-/
import ContractScaffold.Generation
import ContractScaffold.Proofs.Scaffold.Tokens
import ContractScaffold.Proofs.Template.Bundled

namespace ContractScaffold

open Text
open Template (Slot Separated placeholders)

/-- The source is the template with each of its slots, marks included, replaced by a value
for its name, and with all else in its place. -/
def IsFillingOf (values : Text → Option Text) (template source : Text) : Prop :=
  ∃ (lit : Text) (rest : List (Slot × Text)), Separated lit rest
    ∧ (template = lit ++ rest.flatMap fun y => y.1.text ++ y.2)
    ∧ (∀ y ∈ rest, (values y.1.name).isSome)
    ∧ source = lit ++ rest.flatMap fun y => (values y.1.name).getD [] ++ y.2

/-- **A template that its family fills**, from a specification without opening braces. -/
lemma rendered_spec {s : Spec} (hs : ∀ t ∈ s.texts, '\x7b' ∉ t) {name template : Text}
    (h : Template.IsFilledBy (Family.ofTemplate name) template) :
    IsFillingOf
        (fun slot => (Scaffold.tokens (Family.ofTemplate name) RuleSet.standard s).lookup slot)
        template (rendered RuleSet.standard s name template)
      ∧ placeholders (rendered RuleSet.standard s name template) = [] := by
  obtain ⟨lit, rest, hseparated, rfl, hlit, hrest⟩ := Template.exists_separated template h.seals
  have hvalue : ∀ y ∈ rest, ∃ v,
      (Scaffold.tokens (Family.ofTemplate name) RuleSet.standard s).lookup y.1.name = some v
        ∧ Template.IsSealed v := by
    intro y hy
    have hfilled : y.1.name ∈ (Family.ofTemplate name).tokens := by
      refine h.fills _ ?_
      rw [Template.placeholders_separated hseparated]
      exact List.mem_map_of_mem hy
    obtain ⟨v, hv, hmem⟩ := Scaffold.exists_lookup_tokens hfilled
    exact ⟨v, hv, Scaffold.isSealed_of_mem_tokens hs _ hmem⟩
  have hrendered := Template.substitute_separated
    (fun slot => (Scaffold.tokens (Family.ofTemplate name) RuleSet.standard s).lookup slot)
    hseparated
  refine ⟨⟨lit, rest, hseparated, rfl, fun y hy => ?_, hrendered.trans ?_⟩, ?_⟩
  · obtain ⟨v, hv, -⟩ := hvalue y hy
    exact Option.isSome_of_eq_some hv
  · refine congrArg (lit ++ ·) (List.flatMap_congr fun y hy => ?_)
    obtain ⟨v, hv, -⟩ := hvalue y hy
    simp only [Slot.filled, hv, Option.getD_some]
  · rw [rendered, hrendered]
    exact (Template.isSealed_filled hlit hrest hvalue).placeholders_eq_nil

/-! ### Selection -/

/-- Where no template is asked for, or a blank one, a bundled one is selected. -/
lemma exists_bundled_of_blank (contractName : Text) {requested : Option Text}
    (h : ∀ name ∈ requested, isAllBlank name = true) :
    ∃ source, (selectTemplate contractName requested, source) ∈ Shelf.bundled := by
  have hnone : (requested.map trim).filter (fun name => !name.isEmpty) = none := by
    cases requested with
    | none => rfl
    | some name =>
        have hblank : trim name = [] := trim_eq_nil_iff_isAllBlank.mpr (h name rfl)
        simp [hblank]
  rw [selectTemplate, hnone, Shelf.bundled_eq]
  split_ifs
  · exact ⟨Template.vaultSource, by simp⟩
  · exact ⟨Template.erc20Source, by simp⟩

/-! ### The bundled templates -/

/-- **Generation from the bundled templates is complete.** From every specification without
opening braces, by the standard rules, each of them is rendered: the source is the template
with every slot replaced by the text that the family of the template's name has for it,
and no placeholder is left or made. And where no template is asked for, or a blank one,
every document gives a contract. -/
theorem bundled_complete :
    (∀ s : Spec, (∀ t ∈ s.texts, '\x7b' ∉ t) → ∀ name template, (name, template) ∈ Shelf.bundled →
      ∃ code, render Shelf.bundled.load RuleSet.standard s name = .ok code
        ∧ placeholders code = []
        ∧ IsFillingOf (fun slot =>
            (Scaffold.tokens (Family.ofTemplate name) RuleSet.standard s).lookup slot) template code)
      ∧ ∀ markdown requested, (∀ name ∈ requested, isAllBlank name = true) →
        ∃ g, generate Shelf.bundled.load markdown requested = .ok g := by
  have hrender : ∀ (s : Spec) {name template : Text}, (name, template) ∈ Shelf.bundled →
      render Shelf.bundled.load RuleSet.standard s name
        = .ok (rendered RuleSet.standard s name template) := by
    intro s name template h
    rw [render, (Shelf.bundled_spec h).1]
    rfl
  refine ⟨fun s hs name template h => ?_, fun markdown requested h => ?_⟩
  · obtain ⟨hfilling, hnone⟩ := rendered_spec hs (Shelf.bundled_spec h).2
    exact ⟨_, hrender s h, hnone, hfilling⟩
  · obtain ⟨source, hsource⟩ := exists_bundled_of_blank (Spec.ofText markdown).contractName h
    rw [generate, hrender _ hsource]
    exact ⟨_, rfl⟩

/-- A specification with closing braces, slashes and a function of its own. -/
def bracedVault : Spec :=
  ⟨"vault", [], [⟨"pay", "\x7d\x7d //", [⟨"address", "to"⟩], ["By the OWNER"], [], [], [], "bool"⟩],
    [⟨"m", "mapping(address => bool) public", "//"⟩], [], []⟩

/-- That specification fills the vault template, and a blank request gets a template. -/
theorem bundled_complete_bracedVault :
    (∀ t ∈ bracedVault.texts, '\x7b' ∉ t)
      ∧ (vaultTemplate, Template.vaultSource) ∈ Shelf.bundled
      ∧ (∃ code, render Shelf.bundled.load RuleSet.standard bracedVault vaultTemplate = .ok code
        ∧ placeholders code = []
        ∧ IsFillingOf (fun slot =>
            (Scaffold.tokens (Family.ofTemplate vaultTemplate) RuleSet.standard bracedVault).lookup
              slot) Template.vaultSource code)
      ∧ (∀ name ∈ some (" " : Text), isAllBlank name = true)
      ∧ ∃ g, generate Shelf.bundled.load "## Function: f(" (some (" " : Text)) = .ok g := by
  have hbraces : ∀ t ∈ bracedVault.texts, '\x7b' ∉ t := by decide
  have hbundled : (vaultTemplate, Template.vaultSource) ∈ Shelf.bundled := by
    simp [Shelf.bundled_eq]
  have hblank : ∀ name ∈ some (" " : Text), isAllBlank name = true := by
    rintro name ⟨⟩
    decide
  exact ⟨hbraces, hbundled, bundled_complete.1 _ hbraces _ _ hbundled, hblank,
    bundled_complete.2 _ _ hblank⟩

end ContractScaffold
