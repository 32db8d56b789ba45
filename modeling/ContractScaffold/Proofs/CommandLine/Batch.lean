/-
What a batch leaves in the file system. A document is written to two files that are named
by the identifier of its contract; a later document of the same identifier replaces both, and
nothing else of the batch touches them.

* `writeOutputs`, `processDocument_cases`: a document fails before anything is written, or
  its contract and its record are written.
* `HoldsOutputs`, `yields_writeOutputs`, `perform_writeOutputs`: the two files of a document.
* `grows_batchEntries`, `template_batchEntries`: a batch writes to no other files, to no
  document, and to a template only under the identifier of a document.
* `holdsOutputs_batchEntries`: the two files stay as long as no document of the same
  identifier is generated.
* `KeepsEveryOutput`, `twinTree`: two documents of one identifier, of which the first is
  generated and does not keep its files.
* `batchCommand_keepsLast`: after a batch, the files of every generated document are what it
  was generated to, unless a later one of the same identifier was generated.
-/
import ContractScaffold.CommandLine.Run
import ContractScaffold.Proofs.Output
import ContractScaffold.Proofs.Spec.Record

namespace ContractScaffold

open Text

/-! ### The two files of a document -/

/-- Writes the contract and the record of a document of a batch. -/
def writeOutputs {m : Type → Type} [Monad m] [FileSystem m] (config : Config) (s : Spec)
    (template code : Text) : ExceptT Trouble m Outcome := do
  let path ← orTrouble (writeContract code s.contractName config.outputDir)
  let record := recordPath config.recordsDir s.contractName
  orTrouble (writeRecord s record)
  return .generated (identifierOf s.contractName) template path record

/-- The tree holds the contract with its source, and the record, where a batch writes
them. -/
structure HoldsOutputs (config : Config) (s : Spec) (code : Text) (t : Tree) : Prop where
  outputDir : t.HasDirectory config.outputDir
  contract : t.readBytes (contractPath config.outputDir s.contractName) = .ok (utf8 code)
  recordDir : ∀ above ∈ (recordPath config.recordsDir s.contractName).parent?,
    t.HasDirectory above
  record : t.readBytes (recordPath config.recordsDir s.contractName) = .ok (utf8 s.indented)

section Document

variable {t t' : Tree} {config : Config} {s : Spec} {code : Text}

/-- The files stay where nothing of their identifier is written. -/
lemma HoldsOutputs.mono {names : Text → Prop} (h : HoldsOutputs config s code t)
    (hfree : t.LinkFree) (hgrows : t.Grows names t')
    (hnames : ∀ name, IsOutputOf (identifierOf s.contractName) name → ¬ names name) :
    HoldsOutputs config s code t' where
  outputDir := h.outputDir.mono hfree hgrows
  contract := Tree.readBytes_mono hfree hgrows (endsIn_contractPath _ _) (hnames _ (.inl rfl))
    h.contract
  recordDir above habove := (h.recordDir above habove).mono hfree hgrows
  record := Tree.readBytes_mono hfree hgrows (endsIn_recordPath _ _) (hnames _ (.inr rfl))
    h.record

/-- **What was written is there**, and no other file has changed. -/
lemma yields_writeOutputs (hfree : t.LinkFree) (config : Config) (s : Spec)
    (template code : Text) :
    t.Yields (IsOutputOf (identifierOf s.contractName)) (writeOutputs config s template code)
      fun outcome t' => outcome = .generated (identifierOf s.contractName) template
          (contractPath config.outputDir s.contractName)
          (recordPath config.recordsDir s.contractName) ∧
        HoldsOutputs config s code t' := by
  have hcontract := (yields_writeContract hfree code s.contractName config.outputDir).adapt
    Trouble.failure
  refine (hcontract.imp (fun _ => .inl) fun _ _ _ h => h).bind fun path t₁ hgrows h => ?_
  obtain ⟨rfl, hdir, hread⟩ := h
  have hrecord := (yields_writeRecord hgrows.linkFree s
    (endsIn_recordPath config.recordsDir s.contractName)).adapt Trouble.failure
  have hboth : t₁.Yields (IsOutputOf (identifierOf s.contractName))
      (orTrouble (writeRecord s (recordPath config.recordsDir s.contractName)))
      fun _ t' => HoldsOutputs config s code t' :=
    hrecord.imp (fun _ => .inr) fun _ t₂ hgrows' h =>
      { outputDir := hdir.mono hgrows.linkFree hgrows'
        contract := Tree.readBytes_mono hgrows.linkFree hgrows' (endsIn_contractPath _ _)
          (contractFile_ne_recordFile _ _) hread
        recordDir := h.1
        record := h.2 }
  exact hboth.bind fun _ t₂ hgrows' h => .pure hgrows'.linkFree ⟨rfl, h⟩

/-- **A document is generated where one of the same identifier was.** -/
lemma perform_writeOutputs (hfree : t.LinkFree) (h : HoldsOutputs config s code t) {s' : Spec}
    (hid : identifierOf s'.contractName = identifierOf s.contractName) (template code' : Text) :
    (t.perform (writeOutputs config s' template code')).1 =
      .ok (.generated (identifierOf s.contractName) template
        (contractPath config.outputDir s.contractName)
        (recordPath config.recordsDir s.contractName)) := by
  have hpath : contractPath config.outputDir s'.contractName =
      contractPath config.outputDir s.contractName := by
    rw [contractPath, contractPath, hid]
  have hrecord : recordPath config.recordsDir s'.contractName =
      recordPath config.recordsDir s.contractName := by
    rw [recordPath, recordPath, hid]
  have hwrite := perform_writeContract hfree code' s'.contractName h.outputDir
    (hpath ▸ h.contract)
  obtain ⟨hgrows, -⟩ := yields_writeContract hfree code' s'.contractName config.outputDir
  obtain ⟨held, hheld⟩ := Tree.exists_readBytes hfree hgrows h.record
  have hagain := perform_writeRecord hgrows.linkFree s'
    (endsIn_recordPath config.recordsDir s'.contractName)
    (fun above habove => (h.recordDir above (hrecord ▸ habove)).mono hfree hgrows)
    (hrecord ▸ hheld)
  have hfirst : (t.perform (orTrouble (writeContract code' s'.contractName config.outputDir))).1 =
      .ok (contractPath config.outputDir s'.contractName) := Tree.perform_adapt_of_ok hwrite _
  have hsecond : ((t.perform (orTrouble
      (writeContract code' s'.contractName config.outputDir))).2.perform (orTrouble
        (writeRecord s' (recordPath config.recordsDir s'.contractName)))).1 = .ok () :=
    Tree.perform_adapt_of_ok hagain _
  rw [writeOutputs, Tree.perform_bind_of_ok hfirst]
  simp only
  rw [Tree.perform_bind_of_ok hsecond, Tree.perform_pure, hid, hpath, hrecord]

/-- A document whose text and template are there is written. -/
lemma perform_processDocument {file : Path} {markdown source : Text}
    (hread : t.readText file = .ok markdown)
    (hsource : t.template config.templates
      (selectTemplate (Spec.ofText markdown).contractName config.defaultTemplate) =
        .ok source) :
    t.perform (processDocument config file) =
      t.perform (writeOutputs config (Spec.ofText markdown)
        (selectTemplate (Spec.ofText markdown).contractName config.defaultTemplate)
        (rendered RuleSet.standard (Spec.ofText markdown)
          (selectTemplate (Spec.ofText markdown).contractName config.defaultTemplate)
          source)) := by
  rw [processDocument, Tree.perform_bind, orTrouble, Tree.perform_adapt, Tree.perform_ofFile,
    hread]
  simp only [Except.mapError, Except.map]
  rw [Tree.perform_bind, Tree.perform_adapt, Tree.perform_render, hsource]
  rfl

/-- What becomes of a document depends on the text in it and on the template that its contract
calls for. -/
lemma perform_processDocument_eq (t : Tree) (config : Config) (file : Path) :
    t.perform (processDocument config file) =
      match t.readText file with
      | .error fault => (.error (.failure (.io file fault)), t)
      | .ok markdown =>
        let template :=
          selectTemplate (Spec.ofText markdown).contractName config.defaultTemplate
        match t.template config.templates template with
        | .error failure => (.error (.rendering file failure), t)
        | .ok source => t.perform (writeOutputs config (Spec.ofText markdown) template
            (rendered RuleSet.standard (Spec.ofText markdown) template source)) := by
  rcases hread : t.readText file with fault | markdown
  · rw [processDocument, Tree.perform_bind, orTrouble, Tree.perform_adapt, Tree.perform_ofFile,
      hread]
    rfl
  rcases hsource : t.template config.templates
    (selectTemplate (Spec.ofText markdown).contractName config.defaultTemplate)
    with failure | source
  · rw [processDocument, Tree.perform_bind, orTrouble, Tree.perform_adapt, Tree.perform_ofFile,
      hread]
    simp only [Except.mapError, Except.map, hsource]
    rw [Tree.perform_bind, Tree.perform_adapt, Tree.perform_render, hsource]
    rfl
  · simp only [hsource]
    exact perform_processDocument hread hsource

/-- **A document fails before anything is written, or its contract and its record are
written**, rendered from the text in it and the template that its contract calls for. -/
lemma processDocument_cases (t : Tree) (config : Config) (file : Path) :
    (∃ trouble, t.perform (processDocument config file) = (.error trouble, t)) ∨
    ∃ markdown template source, t.readText file = .ok markdown ∧
      template = selectTemplate (Spec.ofText markdown).contractName config.defaultTemplate ∧
      t.template config.templates template = .ok source ∧
      t.perform (processDocument config file) =
        t.perform (writeOutputs config (Spec.ofText markdown) template
          (rendered RuleSet.standard (Spec.ofText markdown) template source)) := by
  rw [perform_processDocument_eq]
  rcases hread : t.readText file with fault | markdown
  · exact .inl ⟨_, rfl⟩
  simp only
  rcases hsource : t.template config.templates
    (selectTemplate (Spec.ofText markdown).contractName config.defaultTemplate)
    with failure | source
  · exact .inl ⟨_, rfl⟩
  · exact .inr ⟨markdown, _, source, rfl, rfl, hsource, rfl⟩

end Document

/-! ### One document after the other -/

section Batch

variable {t t' : Tree} {config : Config} {s : Spec} {code : Text}

/-- The identifier of a contract that was generated. -/
def BatchEntry.contract? (e : BatchEntry) : Option Text :=
  match e.outcome with
  | .generated contract _ _ _ => some contract
  | .failed _ => none

/-- A document of a batch run on a tree. -/
lemma batchEntry_run (t : Tree) (config : Config) (file : Path) :
    t.run (batchEntry config file) =
      (⟨file, match (t.perform (processDocument config file)).1 with
        | .ok outcome => outcome
        | .error trouble => .failed trouble.report⟩,
        (t.perform (processDocument config file)).2) := by
  have hrun : t.run (processDocument config file).run = t.perform (processDocument config file) :=
    rfl
  rw [batchEntry, Tree.run_bind, hrun]
  cases (t.perform (processDocument config file)).1 <;> rfl

lemma batchEntries_cons_run (t : Tree) (config : Config) (file : Path) (files : List Path) :
    t.run (batchEntries config (file :: files)) =
      let first := t.run (batchEntry config file)
      let rest := Tree.run first.2 (batchEntries config files)
      (first.1 :: rest.1, rest.2) :=
  rfl

lemma batchEntries_append_run (t : Tree) (config : Config) (files later : List Path) :
    t.run (batchEntries config (files ++ later)) =
      let first := t.run (batchEntries config files)
      let rest := Tree.run first.2 (batchEntries config later)
      (first.1 ++ rest.1, rest.2) := by
  induction files generalizing t with
  | nil => rfl
  | cons file files ih => simp only [List.cons_append, batchEntries_cons_run, ih]

/-- There is an entry for every document, in order. -/
lemma map_file_batchEntries (t : Tree) (config : Config) (files : List Path) :
    (t.run (batchEntries config files)).1.map BatchEntry.file = files := by
  induction files generalizing t with
  | nil => rfl
  | cons file files ih =>
      rw [batchEntries_cons_run, List.map_cons, ih, batchEntry_run]

/-- An entry of a batch was made on the tree that the documents before it left, and the
rest of the batch on the tree that it left. -/
lemma batchEntries_run_of_eq {files : List Path} {before after : Batch} {e : BatchEntry}
    (hbatch : (t.run (batchEntries config files)).1 = before ++ e :: after) :
    let earlier := t.run (batchEntries config (before.map BatchEntry.file))
    let here := Tree.run earlier.2 (batchEntry config e.file)
    files = before.map BatchEntry.file ++ e.file :: after.map BatchEntry.file ∧
      earlier.1 = before ∧ here.1 = e ∧
      Tree.run here.2 (batchEntries config (after.map BatchEntry.file)) =
        (after, (t.run (batchEntries config files)).2) := by
  intro earlier here
  have hfiles : files = before.map BatchEntry.file ++ e.file :: after.map BatchEntry.file := by
    rw [← map_file_batchEntries t config files, hbatch, List.map_append, List.map_cons]
  have hlength : earlier.1.length = before.length := by
    simpa using congrArg List.length (map_file_batchEntries t config (before.map BatchEntry.file))
  have hrun : t.run (batchEntries config files) =
      (earlier.1 ++ here.1 ::
        (Tree.run here.2 (batchEntries config (after.map BatchEntry.file))).1,
        (Tree.run here.2 (batchEntries config (after.map BatchEntry.file))).2) := by
    conv_lhs => rw [hfiles]
    simp only [batchEntries_append_run, batchEntries_cons_run, earlier, here]
  rw [hrun] at hbatch ⊢
  obtain ⟨hbefore, hrest⟩ := List.append_inj hbatch hlength
  obtain ⟨he, hafter⟩ := List.cons.inj hrest
  exact ⟨hfiles, hbefore, he, Prod.ext hafter rfl⟩

/-- The names of the files that the documents are written to, as they stand in the tree. -/
def IsOutputOfAny (t : Tree) (files : List Path) (name : Text) : Prop :=
  ∃ file ∈ files, ∃ markdown, t.readText file = .ok markdown ∧
    IsOutputOf (identifierOf (Spec.ofText markdown).contractName) name

/-- The names of the files of contracts and records. -/
def IsOutput (name : Text) : Prop :=
  ∃ identifier, IsOutputOf identifier name

/-- One document: the tree grows by its two files, if its text is read at all. -/
lemma grows_batchEntry (hfree : t.LinkFree) (config : Config) (file : Path) :
    t.Grows (IsOutputOfAny t [file]) (t.run (batchEntry config file)).2 := by
  rw [batchEntry_run]
  rcases processDocument_cases t config file with
    ⟨trouble, hrun⟩ | ⟨markdown, template, source, hread, -, -, hrun⟩
  · rw [hrun]
    exact .refl hfree
  · rw [hrun]
    exact (yields_writeOutputs hfree config (Spec.ofText markdown) _ _).1.mono fun name hname =>
      ⟨file, List.mem_singleton_self file, markdown, hread, hname⟩

lemma IsOutputOfAny.isOutput {files : List Path} {name : Text}
    (h : IsOutputOfAny t files name) : IsOutput name := by
  obtain ⟨_, _, _, _, houtput⟩ := h
  exact ⟨_, houtput⟩

/-- A document keeps its text while contracts and records are written. -/
lemma readText_document (hfree : t.LinkFree) (hgrows : t.Grows IsOutput t') {file : Path}
    (hfile : IsDocument file) {markdown : Text} (hread : t.readText file = .ok markdown) :
    t'.readText file = .ok markdown := by
  obtain ⟨stem, hend⟩ := hfile
  exact Tree.readText_mono hfree hgrows hend
    (fun ⟨identifier, houtput⟩ => not_isOutputOf_document identifier stem houtput) hread

/-- **A batch writes to the files of its documents**, and to none of the documents. -/
lemma grows_batchEntries (hfree : t.LinkFree) (config : Config) (files : List Path)
    (hfiles : ∀ file ∈ files, IsDocument file) :
    t.Grows (IsOutputOfAny (t.run (batchEntries config files)).2 files)
      (t.run (batchEntries config files)).2 := by
  induction files generalizing t with
  | nil => exact .refl hfree
  | cons file files ih =>
      have hfirst := grows_batchEntry hfree config file
      have hrest := ih hfirst.linkFree fun other hother =>
        hfiles other (List.mem_cons_of_mem _ hother)
      rw [batchEntries_cons_run]
      simp only
      generalize (t.run (batchEntry config file)).2 = t₁ at hfirst hrest ⊢
      generalize (Tree.run t₁ (batchEntries config files)).2 = t₂ at hrest ⊢
      have hall : t.Grows IsOutput t₂ :=
        (hfirst.mono fun _ h => h.isOutput).trans (hrest.mono fun _ h => h.isOutput)
      refine (hfirst.mono ?_).trans (hrest.mono ?_)
      · rintro name ⟨other, hother, markdown, hread, houtput⟩
        obtain rfl := List.mem_singleton.mp hother
        exact ⟨other, List.mem_cons_self, markdown,
          readText_document hfree hall (hfiles other List.mem_cons_self) hread, houtput⟩
      · rintro name ⟨other, hother, h⟩
        exact ⟨other, List.mem_cons_of_mem _ hother, h⟩

/-- **A template stays** as long as no document has its name for an identifier. -/
lemma template_batchEntries (hfree : t.LinkFree) (config : Config) {files : List Path}
    (hfiles : ∀ file ∈ files, IsDocument file) (source : TemplateSource) (name : Text)
    (hname : ∀ file ∈ files, ∀ markdown,
      Tree.readText (t.run (batchEntries config files)).2 file = .ok markdown →
        identifierOf (Spec.ofText markdown).contractName ≠ name) {text : Text}
    (htext : t.template source name = .ok text) :
    Tree.template (t.run (batchEntries config files)).2 source name = .ok text := by
  refine Tree.template_mono hfree (grows_batchEntries hfree config files hfiles) ?_ htext
  rintro ⟨file, hfile, markdown, hread, houtput⟩
  exact hname file hfile markdown hread (houtput.identifier_eq (.inl rfl))

/-- A document that was generated was read, rendered and written as its entry says. -/
lemma exists_of_generated (hfree : t.LinkFree) {file : Path} {contract template : Text}
    {path record : Path}
    (hrun : (t.run (batchEntry config file)).1.outcome =
      .generated contract template path record) :
    ∃ markdown source, t.readText file = .ok markdown ∧
      t.template config.templates template = .ok source ∧
      contract = identifierOf (Spec.ofText markdown).contractName ∧
      template = selectTemplate (Spec.ofText markdown).contractName config.defaultTemplate ∧
      path = contractPath config.outputDir (Spec.ofText markdown).contractName ∧
      record = recordPath config.recordsDir (Spec.ofText markdown).contractName ∧
      HoldsOutputs config (Spec.ofText markdown)
        (rendered RuleSet.standard (Spec.ofText markdown) template source)
        (t.run (batchEntry config file)).2 := by
  rw [batchEntry_run] at hrun ⊢
  rcases processDocument_cases t config file with
    ⟨trouble, hfail⟩ | ⟨markdown, chosen, source, hread, hchosen, hsource, hwrite⟩
  · rw [hfail] at hrun
    cases hrun
  · rw [hwrite] at hrun ⊢
    obtain ⟨-, hwanted⟩ := yields_writeOutputs hfree config (Spec.ofText markdown) chosen
      (rendered RuleSet.standard (Spec.ofText markdown) chosen source)
    generalize t.perform (writeOutputs config (Spec.ofText markdown) chosen
      (rendered RuleSet.standard (Spec.ofText markdown) chosen source)) =
      written at hrun hwanted ⊢
    obtain ⟨trouble | outcome, t₁⟩ := written
    · cases hrun
    · obtain ⟨houtcome, hholds⟩ := hwanted outcome rfl
      obtain ⟨rfl, rfl, rfl, rfl⟩ : _ ∧ _ ∧ _ ∧ _ := by
        simpa [houtcome] using hrun
      exact ⟨markdown, source, hread, hsource, rfl, hchosen, rfl, rfl, hholds⟩

/-- One document of another identifier, or one that fails, leaves the two files as they
are. -/
lemma holdsOutputs_batchEntry (hfree : t.LinkFree) (h : HoldsOutputs config s code t)
    (file : Path)
    (hother : (t.run (batchEntry config file)).1.contract? ≠ some (identifierOf s.contractName)) :
    HoldsOutputs config s code (t.run (batchEntry config file)).2 := by
  rw [batchEntry_run] at hother ⊢
  rcases processDocument_cases t config file with
    ⟨trouble, hrun⟩ | ⟨markdown, template, source, -, -, -, hrun⟩
  · rw [hrun]
    exact h
  · rw [hrun] at hother ⊢
    by_cases hid : identifierOf (Spec.ofText markdown).contractName =
        identifierOf s.contractName
    · exact absurd (by rw [perform_writeOutputs hfree h hid]; rfl) hother
    · exact h.mono hfree (yields_writeOutputs hfree config (Spec.ofText markdown) _ _).1
        fun name hname hname' => hid (hname'.identifier_eq hname)

/-- **The two files stay** as long as no document of the same identifier is generated. -/
lemma holdsOutputs_batchEntries (hfree : t.LinkFree) (h : HoldsOutputs config s code t)
    (files : List Path)
    (hother : ∀ e ∈ (t.run (batchEntries config files)).1,
      e.contract? ≠ some (identifierOf s.contractName)) :
    HoldsOutputs config s code (t.run (batchEntries config files)).2 := by
  induction files generalizing t with
  | nil => exact h
  | cons file files ih =>
      rw [batchEntries_cons_run] at hother ⊢
      obtain ⟨hfirst, hrest⟩ := List.forall_mem_cons.mp hother
      exact ih (grows_batchEntry hfree config file).linkFree
        (holdsOutputs_batchEntry hfree h file hfirst) hrest

/-- A batch whose documents were found ends with the report on them. -/
lemma batchCommand_run {dir : Path} {files : List Path} (hfiles : t.documentsIn dir = .ok files)
    (config : Config) (format : Format) :
    t.run (batchCommand config dir format) =
      (⟨(t.run (batchEntries config files)).1.exit,
        (t.run (batchEntries config files)).1.report format, []⟩,
        (t.run (batchEntries config files)).2) := by
  have hfound : t.run (FileSystem.documentsIn dir : ExceptT Fault (StateM Tree) _).run =
      (.ok files, t) := by
    have hperform := (Tree.asks_documentsIn dir).perform_eq (t := t)
    rwa [show (t.perform (FileSystem.documentsIn dir)).1 = .ok files from hfiles] at hperform
  rw [batchCommand, Tree.run_bind, hfound]
  exact Tree.run_bind _ _

end Batch

/-! ### Two documents of one identifier -/

section Twins

variable {t : Tree} {config : Config} {s : Spec} {code : Text}

/-- A document is generated where one of the same identifier was. -/
lemma batchEntry_of_holdsOutputs (hfree : t.LinkFree) (h : HoldsOutputs config s code t)
    {file : Path} {markdown source : Text} (hread : t.readText file = .ok markdown)
    (hid : identifierOf (Spec.ofText markdown).contractName = identifierOf s.contractName)
    (hsource : t.template config.templates
      (selectTemplate (Spec.ofText markdown).contractName config.defaultTemplate) =
        .ok source) :
    (t.run (batchEntry config file)).1 = ⟨file, .generated (identifierOf s.contractName)
      (selectTemplate (Spec.ofText markdown).contractName config.defaultTemplate)
      (contractPath config.outputDir s.contractName)
      (recordPath config.recordsDir s.contractName)⟩ := by
  rw [batchEntry_run, perform_processDocument hread hsource, perform_writeOutputs hfree h hid]

/-- After a batch, the files of every generated document are what it was generated to, even
if a later document of the same identifier was generated. -/
def KeepsEveryOutput (t : Tree) (config : Config) (dir : Path) : Prop :=
  ∀ files format, t.documentsIn dir = .ok files →
    let t' := (t.run (batchCommand config dir format)).2
    ∀ e ∈ (t.run (batchEntries config files)).1, ∀ contract template path record,
      e.outcome = .generated contract template path record →
      ∃ markdown source, t.readText e.file = .ok markdown ∧
        t.template config.templates template = .ok source ∧
        t'.readBytes path =
          .ok (utf8 (rendered RuleSet.standard (Spec.ofText markdown) template source)) ∧
        t'.readBytes record = .ok (utf8 (Spec.ofText markdown).indented)

/-- A document that says nothing but the name of its contract. -/
def namedDocument (name : Text) : Text :=
  "## Contract Name\n" ++ name

/-- Two documents whose contracts have one identifier, and the files of an earlier batch of
the first. -/
def twinTree : Tree := [
  (["specs"], .directory),
  (["specs", "a.md"], .file (utf8 (namedDocument "token"))),
  (["specs", "b.md"], .file (utf8 (namedDocument "Token"))),
  (["contracts"], .directory),
  (["contracts", "generated"], .directory),
  (["contracts", "generated", "Token.sol"], .file []),
  (["output"], .directory),
  (["output", "Token.json"], .file (utf8 (Spec.ofText (namedDocument "token")).indented))]

lemma linkFree_twinTree : twinTree.LinkFree := by decide

lemma documentsIn_twinTree :
    twinTree.documentsIn "specs" = .ok ["specs/a.md", "specs/b.md"] := by
  have hsorted : (["a.md", "b.md"] : List Text).mergeSort inOrder = ["a.md", "b.md"] :=
    List.mergeSort_of_pairwise (by decide)
  have hfound : twinTree.documentsIn "specs" =
      .ok (((["a.md", "b.md"] : List Text).mergeSort inOrder).map fun name =>
        Path.join "specs" name) := by rfl
  rw [hfound, hsorted]
  rfl

lemma readText_twinTree :
    twinTree.readText "specs/a.md" = .ok (namedDocument "token") ∧
      twinTree.readText "specs/b.md" = .ok (namedDocument "Token") :=
  ⟨Tree.readText_eq_ok_iff.mpr ⟨_, rfl, ofUtf8?_utf8 _⟩,
    Tree.readText_eq_ok_iff.mpr ⟨_, rfl, ofUtf8?_utf8 _⟩⟩

lemma holdsOutputs_twinTree :
    HoldsOutputs Config.default (Spec.ofText (namedDocument "token")) [] twinTree where
  outputDir _ := rfl
  contract := rfl
  recordDir above habove := by
    have habove : some "output".toList = some above := habove
    cases habove
    exact fun _ => rfl
  record := rfl

/-- Both documents call for the same template, and so does the identifier they have. -/
lemma selectTemplate_twins : ∀ name ∈ (["token", "Token"] : List Text),
    identifierOf (Spec.ofText (namedDocument name)).contractName = "Token" ∧
      selectTemplate (Spec.ofText (namedDocument name)).contractName
        Config.default.defaultTemplate = erc20Template := by
  decide +kernel

/-- The two documents of the tree are generated to the same files. -/
lemma batchEntries_twinTree :
    (twinTree.run (batchEntries Config.default ["specs/a.md", "specs/b.md"])).1 =
      [⟨"specs/a.md", .generated "Token" erc20Template
          "contracts/generated/Token.sol" "output/Token.json"⟩,
        ⟨"specs/b.md", .generated "Token" erc20Template
          "contracts/generated/Token.sol" "output/Token.json"⟩] := by
  have hfree := linkFree_twinTree
  obtain ⟨hid₁, htemplate₁⟩ := selectTemplate_twins "token" (by decide)
  obtain ⟨hid₂, htemplate₂⟩ := selectTemplate_twins "Token" (by decide)
  have hpath : contractPath Config.default.outputDir
      (Spec.ofText (namedDocument "token")).contractName = "contracts/generated/Token.sol" := by
    rw [contractPath, hid₁]
    decide
  have hrecord : recordPath Config.default.recordsDir
      (Spec.ofText (namedDocument "token")).contractName = "output/Token.json" := by
    rw [recordPath, hid₁]
    decide
  have hsource : ∀ t : Tree, t.template Config.default.templates erc20Template =
      .ok Template.erc20Source := fun _ => rfl
  obtain ⟨hread₁, hread₂⟩ := readText_twinTree
  have hfirst := batchEntry_of_holdsOutputs hfree holdsOutputs_twinTree hread₁ rfl
    (by rw [htemplate₁]; exact hsource _)
  rw [hid₁, htemplate₁, hpath, hrecord] at hfirst
  -- the second document finds the files of the first
  have hgrows := grows_batchEntry hfree Config.default "specs/a.md"
  obtain ⟨markdown, source, -, -, hcontract, -, hsame, hsame', hholds⟩ :=
    exists_of_generated hfree (congrArg BatchEntry.outcome hfirst)
  have hdocument : IsDocument "specs/b.md" :=
    Tree.isDocument_of_documentsIn documentsIn_twinTree (by simp)
  have hsecond := batchEntry_of_holdsOutputs hgrows.linkFree hholds
    (readText_document hfree (hgrows.mono fun _ h => h.isOutput) hdocument hread₂)
    (hid₂.trans hcontract) (by rw [htemplate₂]; exact hsource _)
  rw [← hcontract, htemplate₂, ← hsame, ← hsame'] at hsecond
  simp only [batchEntries_cons_run]
  rw [hfirst, hsecond]
  rfl

/-- The record of the first document is not what is in the file of both. -/
theorem not_keepsEveryOutput_twinTree :
    twinTree.LinkFree ∧ ¬ KeepsEveryOutput twinTree Config.default "specs" := by
  refine ⟨linkFree_twinTree, fun hkeeps => ?_⟩
  have hall := hkeeps _ .human documentsIn_twinTree
  rw [batchEntries_twinTree] at hall
  obtain ⟨text₁, -, hread₁, -, -, hrecord₁⟩ := hall _ List.mem_cons_self _ _ _ _ rfl
  obtain ⟨text₂, -, hread₂, -, -, hrecord₂⟩ :=
    hall _ (List.mem_cons_of_mem _ List.mem_cons_self) _ _ _ _ rfl
  obtain rfl := Except.ok.inj (readText_twinTree.1.symm.trans hread₁)
  obtain rfl := Except.ok.inj (readText_twinTree.2.symm.trans hread₂)
  have hbytes := congrArg ofUtf8? (Except.ok.inj (hrecord₁.symm.trans hrecord₂))
  rw [ofUtf8?_utf8, ofUtf8?_utf8] at hbytes
  have hspecs := congrArg Spec.ofRecord? (Option.some.inj hbytes)
  rw [Spec.ofRecord?_indented, Spec.ofRecord?_indented] at hspecs
  exact absurd (congrArg Spec.contractName (Option.some.inj hspecs)) (by decide +kernel)

end Twins

section Batch

variable {t : Tree}

/-- **After a batch, the contract and the record of every generated document are what it was
generated to**, unless a later document of the same identifier was generated: that one
replaces both. The document is as it was, and so is the template, unless an earlier document
had its name for an identifier. The batch ends without a message; a log is no part of a result. -/
theorem batchCommand_keepsLast (hfree : t.LinkFree) (config : Config) {dir : Path}
    {files : List Path} (hfiles : t.documentsIn dir = .ok files) (format : Format) :
    let batch := (t.run (batchEntries config files)).1
    let t' := (t.run (batchCommand config dir format)).2
    (t.run (batchCommand config dir format)).1 = ⟨batch.exit, batch.report format, []⟩ ∧
    batch.map BatchEntry.file = files ∧
    ∀ before e after contract template path record, batch = before ++ e :: after →
      e.outcome = .generated contract template path record →
      ∃ markdown source,
        let s := Spec.ofText markdown
        let here := (t.run (batchEntries config (before.map BatchEntry.file))).2
        t'.readText e.file = .ok markdown ∧
        (∀ text, t.readText e.file = .ok text → text = markdown) ∧
        contract = identifierOf s.contractName ∧
        template = selectTemplate s.contractName config.defaultTemplate ∧
        path = contractPath config.outputDir s.contractName ∧
        record = recordPath config.recordsDir s.contractName ∧
        here.template config.templates template = .ok source ∧
        (∀ text, t.template config.templates template = .ok text →
          (∀ earlier ∈ before, ∀ other, t'.readText earlier.file = .ok other →
            identifierOf (Spec.ofText other).contractName ≠ template) → text = source) ∧
        ((∀ later ∈ after, later.contract? ≠ some contract) →
          t'.readBytes path =
            .ok (utf8 (rendered RuleSet.standard s template source)) ∧
          t'.readBytes record = .ok (utf8 s.indented)) := by
  rw [batchCommand_run hfiles]
  refine ⟨rfl, map_file_batchEntries t config files, ?_⟩
  intro before e after contract template path record hbatch houtcome
  have hdocuments : ∀ file ∈ files, IsDocument file := fun _ =>
    Tree.isDocument_of_documentsIn hfiles
  obtain ⟨hsplit, -, he, hafter⟩ := batchEntries_run_of_eq hbatch
  have hlast := congrArg Prod.snd hafter
  have hrest := congrArg Prod.fst hafter
  -- the trees at the turn of the document, after it and at the end
  generalize (t.run (batchEntries config files)).2 = t' at hlast ⊢
  have hdocuments₁ : ∀ file ∈ before.map BatchEntry.file, IsDocument file := fun file hfile =>
    hdocuments file (by rw [hsplit]; exact List.mem_append_left _ hfile)
  have hgrows₁ := grows_batchEntries hfree config (before.map BatchEntry.file) hdocuments₁
  have htemplates := template_batchEntries hfree config hdocuments₁ config.templates template
  generalize (t.run (batchEntries config (before.map BatchEntry.file))).2 = t₁ at *
  have hgrows₂ := grows_batchEntry hgrows₁.linkFree config e.file
  obtain ⟨markdown, source, hread, hsource, hcontract, htemplate, hpath, hrecord, hholds⟩ :=
    exists_of_generated hgrows₁.linkFree (by rw [he]; exact houtcome)
  generalize (Tree.run t₁ (batchEntry config e.file)).2 = t₂ at *
  have hgrows₃ := grows_batchEntries hgrows₂.linkFree config (after.map BatchEntry.file)
    fun file hfile => hdocuments file (by
      rw [hsplit]; exact List.mem_append_right _ (List.mem_cons_of_mem _ hfile))
  have hkept := holdsOutputs_batchEntries hgrows₂.linkFree hholds (after.map BatchEntry.file)
  simp only at hlast hrest
  rw [hlast] at hgrows₃
  rw [hlast, hrest] at hkept
  have hlater : t₁.Grows IsOutput t' :=
    (hgrows₂.mono fun _ h => h.isOutput).trans (hgrows₃.mono fun _ h => h.isOutput)
  have hdocument : IsDocument e.file := hdocuments e.file (by simp [hsplit])
  refine ⟨markdown, source, readText_document hgrows₁.linkFree hlater hdocument hread,
    fun text htext => ?_, hcontract, htemplate, hpath, hrecord, hsource,
    fun text htext hearlier => ?_, fun hafter => ?_⟩
  · have hsame := readText_document hfree (hgrows₁.mono fun _ h => h.isOutput) hdocument htext
    exact Except.ok.inj (hsame.symm.trans hread)
  · have hsame := htemplates (fun file hfile other hother => ?_) htext
    · exact Except.ok.inj (hsame.symm.trans hsource)
    · obtain ⟨earlier, hbefore, rfl⟩ := List.mem_map.mp hfile
      exact hearlier earlier hbefore other
        (readText_document hgrows₁.linkFree hlater (hdocuments₁ _ hfile) hother)
  · obtain ⟨-, hcode, -, hjson⟩ := hkept fun later hlater => by
      rw [← hcontract]; exact hafter later hlater
    rw [hpath, hrecord]
    exact ⟨hcode, hjson⟩

/-- Of two documents of one identifier, the files are those of the second. -/
theorem batchCommand_keepsLast_twinTree :
    twinTree.LinkFree ∧ twinTree.documentsIn "specs" = .ok ["specs/a.md", "specs/b.md"] ∧
      let t' := (twinTree.run (batchCommand Config.default "specs" .human)).2
      t'.readBytes "contracts/generated/Token.sol" =
        .ok (utf8 (rendered RuleSet.standard (Spec.ofText (namedDocument "Token"))
          erc20Template Template.erc20Source)) ∧
      t'.readBytes "output/Token.json" =
        .ok (utf8 (Spec.ofText (namedDocument "Token")).indented) := by
  obtain ⟨-, -, hkeeps⟩ :=
    batchCommand_keepsLast linkFree_twinTree Config.default documentsIn_twinTree .human
  obtain ⟨markdown, source, -, hstart, -, -, -, -, hsource, -, hlast⟩ :=
    hkeeps [_] _ [] _ _ _ _ batchEntries_twinTree rfl
  obtain rfl := hstart _ readText_twinTree.2
  obtain rfl : Template.erc20Source = source := Except.ok.inj hsource
  exact ⟨linkFree_twinTree, documentsIn_twinTree, hlast (by simp)⟩

end Batch

end ContractScaffold
