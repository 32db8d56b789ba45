/-
Reading two texts put together: what the second one adds where it opens a section.

* `sectionOwner`: which of two texts the section under a heading is read from.
* `fixedHeadings`: the headings that fields are read by.
* `ofText_append`: the document of both texts, and the specification: the functions
  of the first before those of the second, and every other field from the owner of
  its section.
-/
import ContractScaffold.Spec.Reading
import ContractScaffold.Proofs.Document

namespace ContractScaffold

open Text

/-- The one of two texts that the section under a heading is read from: the first
that has the heading. -/
def sectionOwner (s t heading : Text) : Text :=
  if (Document.ofText s).hasHeading heading then s else t

namespace Spec

/-- The headings of the sections that are read by their heading. -/
def fixedHeadings : List Text :=
  [contractNameHeading, securityHeading, stateVariablesHeading, eventsHeading, invariantsHeading]

lemma tidy_of_mem_fixedHeadings : ∀ heading ∈ fixedHeadings, Tidy heading := by
  intro heading hmem
  simp only [fixedHeadings, List.mem_cons, List.not_mem_nil, or_false] at hmem
  rcases hmem with rfl | rfl | rfl | rfl | rfl <;> decide

/-- The text under a heading comes from the owner of its section. -/
lemma body_ofText_append (s : Text) {t heading : Text} (ht : Document.opensSection t = true)
    (hheading : Trimmed heading) :
    (Document.ofText (s ++ '\n' :: t)).body heading
      = (Document.ofText (sectionOwner s t heading)).body heading := by
  rw [Document.ofText_append_break s ht, Document.body_append hheading, sectionOwner]
  split_ifs <;> rfl

/-- **Sections are read one by one**: where the second of two texts opens a section,
nothing leaks from one text into a section of the other. The document has the
sections of both; the functions are those of both, in order; and every other field
is read from the first text that has its section. -/
theorem ofText_append (s t : Text) (ht : Document.opensSection t = true) :
    Document.ofText (s ++ '\n' :: t)
        = ⟨(Document.ofText s).preamble,
            (Document.ofText s).sections ++ (Document.ofText t).sections⟩
      ∧ ofText (s ++ '\n' :: t) =
        { contractName := (ofText (sectionOwner s t contractNameHeading)).contractName
          securityRequirements := (ofText (sectionOwner s t securityHeading)).securityRequirements
          functions := (ofText s).functions ++ (ofText t).functions
          stateVariables := (ofText (sectionOwner s t stateVariablesHeading)).stateVariables
          events := (ofText (sectionOwner s t eventsHeading)).events
          stateInvariants := (ofText (sectionOwner s t invariantsHeading)).stateInvariants } := by
  have hbody : ∀ heading ∈ fixedHeadings, (Document.ofText (s ++ '\n' :: t)).body heading
      = (Document.ofText (sectionOwner s t heading)).body heading :=
    fun heading hmem => body_ofText_append s ht (tidy_of_mem_fixedHeadings heading hmem).toTrimmed
  have hfunctions : (Document.ofText (s ++ '\n' :: t)).functions
      = (Document.ofText s).functions ++ (Document.ofText t).functions := by
    rw [Document.functions, Document.ofText_append_break s ht, List.filterMap_append]
    rfl
  refine ⟨Document.ofText_append_break s ht, ?_⟩
  simp only [ofText, ofDocument, Document.contractName, Document.stateInvariants, Spec.mk.injEq]
  refine ⟨?_, ?_, hfunctions, ?_, ?_, ?_⟩
  · rw [hbody contractNameHeading (by simp [fixedHeadings])]
  · rw [hbody securityHeading (by simp [fixedHeadings])]
  · rw [hbody stateVariablesHeading (by simp [fixedHeadings])]
  · rw [hbody eventsHeading (by simp [fixedHeadings])]
  · rw [hbody invariantsHeading (by simp [fixedHeadings])]

/-- A first text that ends with a bare heading and a carriage return, and a second one
with a section of the same heading: the empty section of the first one counts, and the
functions of both are there. -/
theorem ofText_append_return :
    Document.opensSection "##events\n- \x60E()\x60 - e\n## Function: g()" = true
      ∧ (ofText ("## Function: f()\n- Returns: b\n## Events\r" ++ '\n' ::
            "##events\n- \x60E()\x60 - e\n## Function: g()")).functions
          = [⟨"f", [], [], [], [], [], [], "b"⟩, ⟨"g", [], [], [], [], [], [], []⟩]
      ∧ (ofText ("## Function: f()\n- Returns: b\n## Events\r" ++ '\n' ::
            "##events\n- \x60E()\x60 - e\n## Function: g()")).events = [] := by
  have hopens : Document.opensSection "##events\n- \x60E()\x60 - e\n## Function: g()" = true := by
    decide
  have hwhole := (ofText_append "## Function: f()\n- Returns: b\n## Events\r"
    "##events\n- \x60E()\x60 - e\n## Function: g()" hopens).2
  refine ⟨hopens, ?_, ?_⟩
  · rw [hwhole]
    decide
  · rw [hwhole]
    decide

end Spec

end ContractScaffold
