/-
Generating one document, by itself and in a batch. Under one configuration, the two commands
do the same to a directory that holds one document: they read it once, render it from the same
template and write the same two files, and each stops where the other does.

* `perform_generateFrom`: what generation takes from a document.
* `exists_perform_writeGenerated`: both commands write alike, and differ in what they report.
* `Trouble.cause`: the failure that a trouble comes from.
* `Invocation.run_of_load`, `generateCommand_run`, `batchCommand_singleton`: a command under its
  configuration, the generation of a document, and a batch of one document.
* `run_batch_agrees_generate`: the two commands leave the same tree and end alike.
-/
import ContractScaffold.Proofs.CommandLine.Batch
import ContractScaffold.Proofs.Config
import ContractScaffold.Proofs.Tree.Documents

namespace ContractScaffold

open Text

/-- The failure that a trouble comes from. -/
def Trouble.cause : Trouble → Failure
  | failure f => f
  | reading file fault => .io file fault
  | rendering _ f => f
  | scanning dir fault => .scan dir fault

section Agreement

variable {t : Tree} {config : Config}

/-! ### Generating one document -/

/-- What is generated depends on the text of the document and on the template that its contract
calls for. -/
lemma perform_generateFrom (t : Tree) (config : Config) (file : Path) (requested : Option Text) :
    t.perform (generateFrom config file requested) =
      (match t.readText file with
      | .error fault => .error (.reading file fault)
      | .ok markdown =>
        let template := selectTemplate (Spec.ofText markdown).contractName
          (requested <|> config.defaultTemplate)
        match t.template config.templates template with
        | .error failure => .error (.failure failure)
        | .ok source =>
          let code := rendered RuleSet.standard (Spec.ofText markdown) template source
          .ok ⟨code, Spec.ofText markdown, template, textDigest code⟩, t) := by
  have hread := (Tree.asks_readText file).perform_eq (t := t)
  rw [generateFrom, Tree.perform_bind, Tree.perform_adapt, hread, ← Tree.readText]
  rcases t.readText file with fault | markdown
  · rfl
  simp only [Except.mapError]
  rw [orTrouble, Tree.perform_adapt, generate, Tree.perform_bind, Tree.perform_render]
  rcases t.template config.templates (selectTemplate (Spec.ofText markdown).contractName
    (requested <|> config.defaultTemplate)) with failure | source
  · rfl
  · rfl

/-- What was generated was read and rendered from the text of the document. -/
lemma exists_of_generateFrom {file : Path} {requested : Option Text} {g : Generated}
    (hg : (t.perform (generateFrom config file requested)).1 = .ok g) :
    ∃ markdown source, t.readText file = .ok markdown ∧ g.spec = Spec.ofText markdown ∧
      g.template = selectTemplate g.spec.contractName (requested <|> config.defaultTemplate) ∧
      t.template config.templates g.template = .ok source ∧
      g.code = rendered RuleSet.standard g.spec g.template source := by
  rw [perform_generateFrom] at hg
  rcases hread : t.readText file with fault | markdown
  · rw [hread] at hg
    cases hg
  simp only [hread] at hg
  rcases hsource : t.template config.templates (selectTemplate (Spec.ofText markdown).contractName
    (requested <|> config.defaultTemplate)) with failure | source
  · rw [hsource] at hg
    cases hg
  · rw [hsource] at hg
    obtain rfl := Except.ok.inj hg
    exact ⟨markdown, source, rfl, rfl, rfl, hsource, rfl⟩

/-- Generation writes nothing. -/
lemma asks_generateFrom (config : Config) (file : Path) (requested : Option Text) :
    Tree.Asks (generateFrom config file requested : ExceptT Trouble (StateM Tree) Generated) :=
  fun t => by rw [perform_generateFrom]

/-- The report on a document that was generated with its record. -/
def Generated.report (g : Generated) (config : Config) (file : Path) (format : Format) : Text :=
  Generation.report {
    source := file
    contract := identifierOf g.spec.contractName
    template := g.template
    digest := g.digest
    contractPath := some (contractPath config.outputDir g.spec.contractName)
    recordPath := some (recordPath config.recordsDir g.spec.contractName) } format

/-- **Both commands write alike**, and differ in what they report. -/
lemma exists_perform_writeGenerated (hfree : t.LinkFree) (config : Config) (file : Path)
    (format : Format) (g : Generated) : ∃ (wrote : Except Trouble Unit) (t' : Tree),
      t.perform (writeOutputs config g.spec g.template g.code) =
        (wrote.map fun _ => .generated (identifierOf g.spec.contractName) g.template
          (contractPath config.outputDir g.spec.contractName)
          (recordPath config.recordsDir g.spec.contractName), t') ∧
      t.perform (writeGenerated config file
        (some (recordPath config.recordsDir g.spec.contractName)) format g) =
        (wrote.map fun _ => g.report config file format, t') := by
  have hpath := (yields_writeContract hfree g.code g.spec.contractName config.outputDir).2
  rw [writeOutputs, writeGenerated, Tree.perform_bind, Tree.perform_bind, orTrouble,
    Tree.perform_adapt]
  generalize t.perform (writeContract g.code g.spec.contractName config.outputDir) = first at *
  obtain ⟨failure | path, t₁⟩ := first
  · exact ⟨.error (.failure failure), t₁, rfl, rfl⟩
  obtain ⟨rfl, -, -⟩ := hpath path rfl
  simp only [Except.mapError]
  rw [Tree.perform_bind, Tree.perform_bind, recordAt, orTrouble, Tree.perform_adapt]
  generalize t₁.perform
    (writeRecord g.spec (recordPath config.recordsDir g.spec.contractName)) = second
  obtain ⟨failure | ⟨⟩, t₂⟩ := second
  · exact ⟨.error (.failure failure), t₂, rfl, rfl⟩
  · exact ⟨.ok (), t₂, rfl, rfl⟩

/-! ### The commands -/

/-- A command runs under the configuration that is loaded for it. -/
lemma Invocation.run_of_load {root : Path} {env : Environment} {i : Invocation}
    (hconfig : (t.perform (Config.load root i.overrides env)).1 = .ok config) :
    t.run (i.run root env) = t.run (i.command.run config) := by
  have hload : t.run (Config.load root i.overrides env : ExceptT Failure (StateM Tree) _).run =
      (.ok config, t) := by
    rw [← hconfig]
    exact (Tree.asks_load_config root i.overrides env).perform_eq
  rw [Invocation.run, Tree.run_bind, hload]

/-- A batch of one document. -/
lemma batchCommand_singleton {dir file : Path} (hfiles : t.documentsIn dir = .ok [file])
    (config : Config) (format : Format) :
    t.run (batchCommand config dir format) =
      match t.perform (processDocument config file) with
      | (.ok outcome, t') =>
        (⟨Batch.exit [⟨file, outcome⟩], Batch.report [⟨file, outcome⟩] format, []⟩, t')
      | (.error trouble, t') =>
        (⟨1, Batch.report [⟨file, .failed trouble.report⟩] format, []⟩, t') := by
  have hnil : ∀ t : Tree, t.run (batchEntries config []) = ([], t) := fun _ => rfl
  rw [batchCommand_run hfiles, batchEntries_cons_run, batchEntry_run]
  simp only [hnil]
  rcases t.perform (processDocument config file) with ⟨trouble | outcome, t'⟩
  · rfl
  · rfl

/-- A program with a text or a trouble in the end, as a result. -/
lemma toResult_run (t : Tree) (program : ExceptT Trouble (StateM Tree) Text) :
    t.run (toResult program) =
      (match (t.perform program).1 with
        | .ok stdout => .success stdout
        | .error trouble => .trouble [] trouble, (t.perform program).2) := by
  have hrun : t.run program.run = t.perform program := rfl
  rw [toResult, Tree.run_bind, hrun]
  cases (t.perform program).1 <;> rfl

/-- A contract is put out, or it is written and reported on. -/
lemma generateCommand_run (t : Tree) (config : Config) (file : Path) (requested : Option Text)
    (record : Option Path) (toStdout : Bool) (format : Format) :
    t.run (generateCommand config file requested record toStdout format) =
      match (t.perform (generateFrom config file requested)).1 with
      | .error trouble => (.trouble [] trouble, t)
      | .ok g => t.run (if toStdout then sourceResult g record
          else toResult (writeGenerated config file record format g)) := by
  have hfrom : t.run (generateFrom config file requested).run =
      ((t.perform (generateFrom config file requested)).1, t) :=
    (asks_generateFrom config file requested).perform_eq
  rw [generateCommand, Tree.run_bind, hfrom]
  rcases (t.perform (generateFrom config file requested)).1 with trouble | g
  · rfl
  · cases toStdout <;> rfl

/-! ### Both commands on one document -/

/-- A batch of one document and its generation end alike: both fail, from the same cause, or
both succeed, with the same contract, template and paths. -/
inductive EndAlike (config : Config) (file : Path) (format format' : Format)
    (generation : Except Trouble Generated) : Result → Result → Prop
  | failed (trouble trouble' : Trouble) (h : trouble'.cause = trouble.cause) :
      EndAlike config file format format' generation
        ⟨1, Batch.report [⟨file, .failed trouble.report⟩] format, []⟩ (.trouble [] trouble')
  | generated (g : Generated) (h : generation = .ok g) :
      EndAlike config file format format' generation
        (.success (Batch.report [⟨file, .generated (identifierOf g.spec.contractName) g.template
          (contractPath config.outputDir g.spec.contractName)
          (recordPath config.recordsDir g.spec.contractName)⟩] format))
        (.success (g.report config file format'))

/-- The command for a document does what the batch does. -/
lemma batchCommand_agrees_generateCommand (hfree : t.LinkFree) {dir file record : Path}
    (hfiles : t.documentsIn dir = .ok [file])
    (hrecord : ∀ markdown, t.readText file = .ok markdown →
      record = recordPath config.recordsDir (Spec.ofText markdown).contractName)
    (format format' : Format) :
    let batch := t.run (batchCommand config dir format)
    let generated := t.run (generateCommand config file none (some record) false format')
    generated.2 = batch.2 ∧
      EndAlike config file format format' (t.perform (generateFrom config file none)).1
        batch.1 generated.1 := by
  have hrequested : (none <|> config.defaultTemplate) = config.defaultTemplate := rfl
  simp only
  rw [batchCommand_singleton hfiles, generateCommand_run, perform_processDocument_eq,
    perform_generateFrom, hrequested]
  rcases hread : t.readText file with fault | markdown
  · exact ⟨rfl, .failed (.failure (.io file fault)) (.reading file fault) rfl⟩
  rw [hrecord markdown hread]
  simp only
  generalize Spec.ofText markdown = s
  generalize selectTemplate s.contractName config.defaultTemplate = template
  rcases t.template config.templates template with failure | source
  · exact ⟨rfl, .failed (.rendering file failure) (.failure failure) rfl⟩
  simp only
  generalize rendered RuleSet.standard s template source = code
  -- from here on, both commands write what was generated
  let g : Generated := ⟨code, s, template, textDigest code⟩
  obtain ⟨wrote, t', houtputs, hgenerated⟩ :=
    exists_perform_writeGenerated hfree config file format' g
  simp only [g] at houtputs hgenerated
  rw [houtputs, if_neg Bool.false_ne_true, toResult_run, hgenerated]
  rcases wrote with trouble | ⟨⟩
  · exact ⟨rfl, .failed trouble trouble rfl⟩
  · exact ⟨rfl, .generated g rfl⟩

/-- What a batch writes for a document is what generation gives. -/
lemma perform_processDocument_of_generateFrom {file : Path} {g : Generated}
    (hg : (t.perform (generateFrom config file none)).1 = .ok g) :
    t.perform (processDocument config file) =
      t.perform (writeOutputs config g.spec g.template g.code) := by
  have hrequested : (none <|> config.defaultTemplate) = config.defaultTemplate := rfl
  rw [perform_generateFrom, hrequested] at hg
  rw [perform_processDocument_eq]
  generalize t.readText file = read at *
  obtain fault | markdown := read
  · cases hg
  simp only at hg ⊢
  generalize t.template config.templates
    (selectTemplate (Spec.ofText markdown).contractName config.defaultTemplate) = found at *
  obtain failure | source := found
  · cases hg
  · obtain rfl := Except.ok.inj hg
    rfl

/-- **A batch of one document and its generation agree.** In a directory that holds one
document, under one configuration and with the record where a batch puts it, the two commands
leave the same tree and end alike; and what the batch writes is what generation gives. -/
theorem run_batch_agrees_generate {place : Place} (ht : t.WellFormed) {dir : Path}
    (hdir : t.resolve dir = .ok place) (hplace : t.entry? place = some .directory) {name : Text}
    (hone : ∀ other, t.HoldsDocument place other ↔ other = name)
    {root root' : Path} {env env' : Environment} {arguments arguments' : List Text}
    {i i' : Invocation} (hi : Arguments.read arguments = .ok i)
    (hi' : Arguments.read arguments' = .ok i')
    (hconfig : (t.perform (Config.load root i.overrides env)).1 = .ok config)
    (hconfig' : (t.perform (Config.load root' i'.overrides env')).1 = .ok config)
    {outDir recordsDir outDir' : Option Path} {format format' : Format} {record : Path}
    (hbatch : i.command = .batch dir outDir recordsDir format)
    (hgenerate : i'.command =
      .generate (dir.join name) none outDir' (some record) false format')
    (hrecord : ∀ markdown, t.readText (dir.join name) = .ok markdown →
      record = recordPath config.recordsDir (Spec.ofText markdown).contractName) :
    let file := dir.join name
    let batch := t.run (run root env arguments)
    let generated := t.run (run root' env' arguments')
    let generation := (t.perform (generateFrom config file none)).1
    generated.2 = batch.2 ∧
      EndAlike config file format format' generation batch.1 generated.1 ∧
      ∀ g, generation = .ok g → t.perform (processDocument config file) =
        t.perform (writeOutputs config g.spec g.template g.code) := by
  intro file batch generated generation
  obtain ⟨names, hnames, hfiles⟩ := ht.documentsIn_directory hdir hplace
  obtain rfl := (hnames.congr hone).unique (.singleton name)
  have hbatch : batch = t.run (batchCommand config dir format) := by
    have hrun := Invocation.run_of_load hconfig
    rw [hbatch] at hrun
    simp only [batch, run, hi]
    exact hrun
  have hgenerate : generated =
      t.run (generateCommand config file none (some record) false format') := by
    have hrun := Invocation.run_of_load hconfig'
    rw [hgenerate] at hrun
    simp only [generated, run, hi']
    exact hrun
  obtain ⟨htree, hend⟩ :=
    batchCommand_agrees_generateCommand ht.linkFree hfiles hrecord format format'
  rw [hbatch, hgenerate]
  exact ⟨htree, hend, fun g => perform_processDocument_of_generateFrom⟩

/-- A directory with one document. -/
def singleTree : Tree := [
  (["specs"], .directory),
  (["specs", "a.md"], .file (utf8 (namedDocument "Token")))]

lemma wellFormed_singleTree : singleTree.WellFormed where
  linkFree := by decide
  nodup := by decide
  names := by decide

lemma holdsDocument_singleTree_iff (other : Text) :
    singleTree.HoldsDocument ["specs"] other ↔ other = "a.md" := by
  have hlisting : singleTree.listing ["specs"] = ([("a.md", Kind.file)] : List (Text × Kind)) :=
    rfl
  have hextension : hasExtension FileSystem.documentExtension "a.md" = true := by decide
  rw [wellFormed_singleTree.holdsDocument_iff, hlisting]
  constructor
  · rintro ⟨hlisted, -⟩
    simpa using hlisted
  · rintro rfl
    exact ⟨by simp, hextension⟩

/-- The two commands agree on the document of that directory. -/
theorem run_batch_agrees_generate_singleTree :
    let batch := singleTree.run (run [] (fun _ => none) ["batch", "specs"])
    let generated := singleTree.run (run [] (fun _ => none)
      ["generate", "specs/a.md", "--record", "output/Token.json"])
    generated.2 = batch.2 ∧
      EndAlike Config.default "specs/a.md" .human .human
        (singleTree.perform (generateFrom Config.default "specs/a.md" none)).1
        batch.1 generated.1 := by
  have hread : singleTree.readText "specs/a.md" = .ok (namedDocument "Token") :=
    Tree.readText_eq_ok_iff.mpr ⟨_, rfl, ofUtf8?_utf8 _⟩
  have hrecord : ∀ markdown, singleTree.readText "specs/a.md" = .ok markdown →
      "output/Token.json" = recordPath Config.default.recordsDir
        (Spec.ofText markdown).contractName := by
    intro markdown hmarkdown
    obtain rfl := Except.ok.inj (hread.symm.trans hmarkdown)
    rw [recordPath, (selectTemplate_twins "Token" (by decide)).1]
    decide
  have hdir : singleTree.resolve "specs" = .ok ["specs"] := rfl
  have hi : Arguments.read ["batch", "specs"] =
      .ok ⟨false, none, none, .batch "specs" none none .human⟩ := rfl
  have hi' : Arguments.read ["generate", "specs/a.md", "--record", "output/Token.json"] =
      .ok ⟨false, none, none,
        .generate "specs/a.md" none none (some "output/Token.json") false .human⟩ := rfl
  have hconfig : (singleTree.perform (Config.load [] ⟨none, none, none, none⟩ fun _ => none)).1 =
      .ok Config.default := rfl
  obtain ⟨htree, hend, -⟩ := run_batch_agrees_generate wellFormed_singleTree hdir rfl
    holdsDocument_singleTree_iff hi hi' hconfig hconfig rfl rfl hrecord
  exact ⟨htree, hend⟩

end Agreement

end ContractScaffold
