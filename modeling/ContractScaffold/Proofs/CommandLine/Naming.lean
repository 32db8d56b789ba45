/-
The files that are named by identifiers. Whatever a contract is called, its source is written
directly to the directory for it and its record of a batch to the directory for records, under
the identifier that the source and the reports use.

* `parts_contractPath`, `parts_recordPath`: both files are directly in their directories.
* `Outcome.Wrote`, `wrote_batchEntry`: what has been written when a document of a batch is
  done.
* `generateInto_cases`: a contract that is rendered and written.
* `lookup_contractName`, `rendered_contractName`: the name in the source of a contract.
* `exists_of_writeGenerated`: the name in the report on it, as it is read there.
* `identifier_names_outputs`: one identifier for all of them.
-/
import ContractScaffold.Proofs.CommandLine.Agreement
import ContractScaffold.Proofs.CommandLine.Report
import ContractScaffold.Proofs.Tree.Frame

namespace ContractScaffold

open Text

/-! ### Files in their directories -/

lemma parts_contractPath (dir : Path) (name : Text) :
    (contractPath dir name).parts = dir.parts ++ [contractFile (identifierOf name)] :=
  Path.parts_join dir (by simp) (slash_notMem_contractFile name)

lemma parts_recordPath (dir : Path) (name : Text) :
    (recordPath dir name).parts = dir.parts ++ [recordFile (identifierOf name)] :=
  Path.parts_join dir (by simp) (slash_notMem_recordFile name)

/-- The stem of both file names is the identifier. -/
lemma stemAndExtension_outputs (name : Text) :
    stemAndExtension (contractFile (identifierOf name)) =
        (identifierOf name, some sourceExtension) ∧
      stemAndExtension (recordFile (identifierOf name)) =
        (identifierOf name, some ("json" : Text)) := by
  have hne := (isIdentifier_identifierOf name).isName.ne_nil
  exact ⟨stemAndExtension_append hne (by decide) (by decide),
    stemAndExtension_append hne (by decide) (by decide)⟩

/-! ### What is written -/

section Writing

variable {t : Tree} {config : Config}

/-- A contract that is rendered and written, or of which no file has changed. -/
lemma generateInto_cases (t : Tree) (source : TemplateSource) (s : Spec) (template : Text)
    (dir : Path) :
    let ran := t.perform (generateInto source.load s template dir)
    ((∃ failure, ran.1 = .error failure) ∧ t.KeepsFiles ran.2) ∨
      ∃ text, t.template source template = .ok text ∧
        ran.1 = .ok (contractPath dir s.contractName) ∧
        t.WroteOnly (contractPath dir s.contractName)
          (utf8 (rendered RuleSet.standard s template text)) ran.2 := by
  simp only
  rw [generateInto, Tree.perform_bind, Tree.perform_render]
  rcases t.template source template with failure | text
  · exact .inl ⟨⟨failure, rfl⟩, refl_of Tree.KeepsFiles t⟩
  · exact (perform_writeContract_cases t (rendered RuleSet.standard s template text)
      s.contractName dir).imp_right fun hwrote => ⟨text, rfl, hwrote⟩

/-- What has been written when a document of a batch is done: nothing or the contract alone if it
failed, and else the contract and the record, which it reports under the identifier. -/
inductive Outcome.Wrote (config : Config) (s : Spec) (t t' : Tree) : Outcome → Prop
  | nothing (reason : Text) (h : t.KeepsFiles t') : Wrote config s t t' (.failed reason)
  | contract (reason : Text) {t₁ : Tree} {code : List UInt8}
      (h : t.WroteOnly (contractPath config.outputDir s.contractName) code t₁)
      (h' : t₁.KeepsFiles t') : Wrote config s t t' (.failed reason)
  | both (template : Text) {t₁ : Tree} {code : List UInt8}
      (h : t.WroteOnly (contractPath config.outputDir s.contractName) code t₁)
      (h' : t₁.WroteOnly (recordPath config.recordsDir s.contractName) (utf8 s.indented) t') :
      Wrote config s t t' (.generated (identifierOf s.contractName) template
        (contractPath config.outputDir s.contractName)
        (recordPath config.recordsDir s.contractName))

/-- **A document of a batch** writes its contract and its record, and nothing else. -/
lemma wrote_batchEntry {file : Path} {markdown : Text} (hread : t.readText file = .ok markdown) :
    let ran := t.run (batchEntry config file)
    ran.1.outcome.Wrote config (Spec.ofText markdown) t ran.2 := by
  simp only
  rw [batchEntry_run]
  rcases processDocument_cases t config file with
    ⟨trouble, hrun⟩ | ⟨text, template, source, htext, -, -, hrun⟩
  · rw [hrun]
    exact .nothing _ (refl_of Tree.KeepsFiles t)
  obtain rfl := Except.ok.inj (hread.symm.trans htext)
  rw [hrun, writeOutputs, Tree.perform_bind, orTrouble, Tree.perform_adapt]
  have hcontract := perform_writeContract_cases t
    (rendered RuleSet.standard (Spec.ofText markdown) template source)
    (Spec.ofText markdown).contractName config.outputDir
  generalize t.perform (writeContract
    (rendered RuleSet.standard (Spec.ofText markdown) template source)
    (Spec.ofText markdown).contractName config.outputDir) = first at hcontract ⊢
  obtain ⟨r, t₁⟩ := first
  rcases hcontract with ⟨⟨failure, rfl⟩, hkeeps⟩ | ⟨rfl, hwrote⟩
  · exact .nothing _ hkeeps
  simp only [Except.mapError]
  rw [Tree.perform_bind, orTrouble, Tree.perform_adapt]
  have hrecord := perform_writeRecord_cases t₁ (Spec.ofText markdown)
    (recordPath config.recordsDir (Spec.ofText markdown).contractName)
  generalize t₁.perform (writeRecord (Spec.ofText markdown)
    (recordPath config.recordsDir (Spec.ofText markdown).contractName)) = second at hrecord ⊢
  obtain ⟨r, t₂⟩ := second
  rcases hrecord with ⟨⟨failure, rfl⟩, hkeeps⟩ | ⟨rfl, hwrote'⟩
  · exact .contract _ hwrote hkeeps
  · exact .both template hwrote hwrote'

end Writing

/-! ### Names in sources and reports -/

/-- The placeholder for the name of a contract. -/
def contractNameSlot : Text := "CONTRACT_NAME"

lemma lookup_contractName (family : Family) (rules : RuleSet) (s : Spec) :
    (Scaffold.tokens family rules s).lookup contractNameSlot =
      some (identifierOf s.contractName) :=
  rfl

/-- **In every source**, the placeholders for the name are filled with the identifier. -/
lemma rendered_contractName (rules : RuleSet) (s : Spec) (template source : Text) :
    rendered rules s template source = (Template.pieces source).flatMap fun piece =>
      if piece.name? = some contractNameSlot then identifierOf s.contractName
      else piece.fill fun name =>
        (Scaffold.tokens (Family.ofTemplate template) rules s).lookup name := by
  rw [rendered, Template.substitute]
  refine List.flatMap_congr fun piece _ => ?_
  split_ifs with hname
  · cases piece with
    | plain c => cases hname
    | placeholder mark name =>
        obtain rfl := Option.some.inj hname
        rw [Template.Piece.fill, lookup_contractName, Option.getD_some]
  · rfl

/-- A report on a generation is on a contract under the identifier, which is the name that is read
from it. -/
lemma exists_of_writeGenerated {t : Tree} {config : Config} {file : Path} {record : Option Path}
    {format : Format} {g : Generated} {stdout : Text}
    (h : (t.perform (writeGenerated config file record format g)).1 = .ok stdout) :
    ∃ generation : Generation, generation.contract = identifierOf g.spec.contractName ∧
      generation.contractPath = some (contractPath config.outputDir g.spec.contractName) ∧
      stdout = generation.report format ∧ generation.IsReportedBy format stdout := by
  have hcontract := perform_writeContract_cases t g.code g.spec.contractName config.outputDir
  rw [writeGenerated, Tree.perform_bind, orTrouble, Tree.perform_adapt] at h
  generalize t.perform (writeContract g.code g.spec.contractName config.outputDir) = first
    at hcontract h
  obtain ⟨r, t₁⟩ := first
  rcases hcontract with ⟨⟨failure, rfl⟩, -⟩ | ⟨rfl, -⟩
  · cases h
  simp only [Except.mapError] at h
  rw [Tree.perform_bind] at h
  generalize t₁.perform (orTrouble (recordAt g.spec record)) = second at h
  obtain ⟨trouble | ⟨⟩, t₂⟩ := second
  · cases h
  · obtain rfl := Except.ok.inj h
    exact ⟨_, rfl, rfl, rfl, Generation.isReportedBy_report _ format⟩

/-- **One identifier names a contract**, and it is one whatever the contract is called. The
source is written directly to its directory and the record of a batch to that for records, under
the identifier, which is the name in the source and in the reports as well; and no other file is
written. A program reads that name from a report as the contract, and a person in the line for the
contract. The name in a record is a name, and neither it nor the identifier made of it changes
when it is made into a name again. -/
theorem identifier_names_outputs :
    (∀ raw, IsIdentifier (identifierOf raw)) ∧
    (∀ dir name, (contractPath dir name).parts = dir.parts ++ [contractFile (identifierOf name)] ∧
      (recordPath dir name).parts = dir.parts ++ [recordFile (identifierOf name)] ∧
      stemAndExtension (contractFile (identifierOf name)) =
        (identifierOf name, some sourceExtension) ∧
      stemAndExtension (recordFile (identifierOf name)) =
        (identifierOf name, some ("json" : Text))) ∧
    (∀ (t : Tree) dir name place, t.LinkFree → t.resolve (contractPath dir name) = .ok place →
      ∃ above, (dir = [] ∧ above = [] ∨ t.resolve dir = .ok above) ∧
        place = above ++ [contractFile (identifierOf name)]) ∧
    (∀ (t : Tree) code name dir,
      let ran := t.perform (writeContract code name dir)
      ((∃ failure, ran.1 = .error failure) ∧ t.KeepsFiles ran.2) ∨
        (ran.1 = .ok (contractPath dir name) ∧
          t.WroteOnly (contractPath dir name) (utf8 code) ran.2)) ∧
    (∀ (t : Tree) (source : TemplateSource) s template dir,
      let ran := t.perform (generateInto source.load s template dir)
      ((∃ failure, ran.1 = .error failure) ∧ t.KeepsFiles ran.2) ∨
        ∃ text, t.template source template = .ok text ∧
          ran.1 = .ok (contractPath dir s.contractName) ∧
          t.WroteOnly (contractPath dir s.contractName)
            (utf8 (rendered RuleSet.standard s template text)) ran.2) ∧
    (∀ (t : Tree) config file markdown, t.readText file = .ok markdown →
      let ran := t.run (batchEntry config file)
      ran.1.outcome.Wrote config (Spec.ofText markdown) t ran.2) ∧
    (∀ rules s template source,
      rendered rules s template source = (Template.pieces source).flatMap fun piece =>
        if piece.name? = some contractNameSlot then identifierOf s.contractName
        else piece.fill fun name =>
          (Scaffold.tokens (Family.ofTemplate template) rules s).lookup name) ∧
    (∀ (t : Tree) config file record format g stdout,
      (t.perform (writeGenerated config file record format g)).1 = .ok stdout →
      ∃ generation : Generation, generation.contract = identifierOf g.spec.contractName ∧
        generation.contractPath = some (contractPath config.outputDir g.spec.contractName) ∧
        stdout = generation.report format ∧ generation.IsReportedBy format stdout) ∧
    (∀ (b : Batch) e format, e ∈ b → e.IsReportedIn format (b.report format)) ∧
    ∀ raw, IsName (recordName raw) ∧ recordName (recordName raw) = recordName raw ∧
      let identifier := identifierOf (recordName raw)
      recordName identifier = identifier ∧ identifierOf identifier = identifier ∧
        ∃ c rest, recordName raw = c :: rest ∧
          identifier = if c.isDigit then '_' :: c :: rest else c.toUpper :: rest := by
  refine ⟨isIdentifier_identifierOf, fun dir name => ?_, fun t dir name place hfree hpath => ?_,
    fun t code name dir => perform_writeContract_cases t code name dir,
    fun t source s template dir => generateInto_cases t source s template dir,
    fun t config file markdown hread => wrote_batchEntry hread, rendered_contractName,
    fun t config file record format g stdout h => exists_of_writeGenerated h,
    fun b e format he => Batch.isReportedIn_report he format, fun raw => ?_⟩
  · exact ⟨parts_contractPath dir name, parts_recordPath dir name, stemAndExtension_outputs name⟩
  · exact Tree.exists_of_resolve_join hfree (two_lt_length_contractFile _)
      (slash_notMem_contractFile name) hpath
  · have hname := isName_recordName raw
    obtain ⟨c, rest, hcons⟩ := List.exists_cons_of_ne_nil hname.ne_nil
    refine ⟨hname, hname.recordName_eq, (isIdentifier_identifierOf _).isName.recordName_eq,
      hname.identifierOf_identifierOf, c, rest, hcons, ?_⟩
    rw [hcons] at hname ⊢
    exact hname.identifierOf_cons

/-- A name that looks like a path out of the directory is that of a file in it. -/
theorem identifier_names_outputs_singleTree :
    singleTree.LinkFree ∧
      singleTree.resolve (contractPath "specs" "../a") = .ok ["specs", "a.sol"] ∧
      ∃ above, (("specs" : Path) = [] ∧ above = [] ∨ singleTree.resolve "specs" = .ok above) ∧
        (["specs", "a.sol"] : Place) = above ++ [contractFile (identifierOf "../a")] := by
  have hpath : singleTree.resolve (contractPath "specs" "../a") = .ok ["specs", "a.sol"] := by rfl
  exact ⟨wellFormed_singleTree.linkFree, hpath,
    identifier_names_outputs.2.2.1 singleTree "specs" "../a" _ wellFormed_singleTree.linkFree hpath⟩

end ContractScaffold
