/-
What a command line may write. In a tree without links, and with paths that stay below the
working directory, a command writes the files that it is for and the directories above them;
where it ends for want of its input, it writes nothing.

* `Command.Writes`: the places of the files that a command may write.
* `Command.HasPlainPaths`: commands that write below the working directory.
* `confines_parseCommand`, `confines_generateCommand`, `confines_batchEntries`: one command at a
  time.
* `Command.EndsEarly`, `Invocation.EndsEarly`: how a command ends for want of its input, and
  `EndsEarly.run_eq`: it leaves the tree as it was.
* `run_confined`: what a command line leaves of a tree.
-/
import ContractScaffold.Proofs.CommandLine.Agreement
import ContractScaffold.Proofs.CommandLine.Isolation
import ContractScaffold.Proofs.Tree.Frame

namespace ContractScaffold

open Text

/-! ### The files of a command -/

/-- The places of the files that a command may write: the record of `parse`, the contract and
the record of `generate`, and those of all documents of `batch`. -/
inductive Command.Writes (t : Tree) (config : Config) : Command → Place → Prop
  | parse (file record : Path) (format : Format) :
      Writes t config (.parse file (some record) format) record.place
  | contract {file : Path} {markdown : Text} (hread : t.readText file = .ok markdown)
      (template : Option Text) (outDir record : Option Path) (format : Format) :
      Writes t config (.generate file template outDir record false format)
        (config.outputDir.place ++
          [contractFile (identifierOf (Spec.ofText markdown).contractName)])
  | record (file : Path) (template : Option Text) (outDir : Option Path) (record : Path)
      (toStdout : Bool) (format : Format) :
      Writes t config (.generate file template outDir (some record) toStdout format) record.place
  | batchContract {dir file : Path} {files : List Path} {markdown : Text}
      (hfiles : t.documentsIn dir = .ok files) (hfile : file ∈ files)
      (hread : t.readText file = .ok markdown) (outDir recordsDir : Option Path)
      (format : Format) :
      Writes t config (.batch dir outDir recordsDir format)
        (config.outputDir.place ++
          [contractFile (identifierOf (Spec.ofText markdown).contractName)])
  | batchRecord {dir file : Path} {files : List Path} {markdown : Text}
      (hfiles : t.documentsIn dir = .ok files) (hfile : file ∈ files)
      (hread : t.readText file = .ok markdown) (outDir recordsDir : Option Path)
      (format : Format) :
      Writes t config (.batch dir outDir recordsDir format)
        (config.recordsDir.place ++
          [recordFile (identifierOf (Spec.ofText markdown).contractName)])

/-- The paths that a command writes to are plain. -/
def Command.HasPlainPaths (config : Config) : Command → Prop
  | .parse _ output _ => ∀ path ∈ output, path.IsPlain
  | .generate _ _ _ record toStdout _ =>
    (toStdout = false → config.outputDir.IsPlain) ∧ ∀ path ∈ record, path.IsPlain
  | .batch _ _ _ _ => config.outputDir.IsPlain ∧ config.recordsDir.IsPlain
  | .templates => True

/-! ### One command at a time -/

section Commands

variable {t : Tree} {config : Config} {written : Place → Prop}

lemma confines_recordAt {record : Option Path} (hplain : ∀ path ∈ record, path.IsPlain)
    (hwritten : ∀ path ∈ record, written path.place) (s : Spec) :
    Tree.Keeps (Tree.Confines written)
      (recordAt s record : ExceptT Failure (StateM Tree) Unit) := by
  cases record with
  | none => exact .of_asks (Tree.asks_pure ())
  | some path => exact confines_writeRecord (hplain path rfl) (hwritten path rfl) s

lemma asks_ofFile (file : Path) :
    Tree.Asks (Spec.ofFile file : ExceptT Failure (StateM Tree) Spec) := fun t => by
  rw [Tree.perform_ofFile]

/-- The command for a record writes it. -/
lemma confines_parseCommand {output : Option Path} (hplain : ∀ path ∈ output, path.IsPlain)
    (hwritten : ∀ path ∈ output, written path.place) (file : Path) (format : Format) :
    Tree.Keeps (Tree.Confines written)
      (parseCommand file output format : ExceptT Trouble (StateM Tree) Text) := by
  refine (Tree.Keeps.of_asks ((asks_ofFile file).adapt _)).bind fun s => ?_
  refine ((confines_recordAt hplain hwritten s).adapt _).bind fun _ => ?_
  exact .of_asks (Tree.asks_pure _)

/-- What was generated is written to a contract and a record. -/
lemma confines_writeGenerated {record : Option Path} (hdir : config.outputDir.IsPlain)
    (hplain : ∀ path ∈ record, path.IsPlain) {g : Generated}
    (hcontract : written (config.outputDir.place ++
      [contractFile (identifierOf g.spec.contractName)]))
    (hrecord : ∀ path ∈ record, written path.place) (file : Path) (format : Format) :
    Tree.Keeps (Tree.Confines written)
      (writeGenerated config file record format g : ExceptT Trouble (StateM Tree) Text) := by
  refine ((confines_writeContract hdir hcontract g.code).adapt _).bind fun path => ?_
  refine ((confines_recordAt hplain hrecord g.spec).adapt _).bind fun _ => ?_
  exact .of_asks (Tree.asks_pure _)

/-- The contract and the record of a document of a batch are written. -/
lemma confines_writeOutputs (hdir : config.outputDir.IsPlain) (hdir' : config.recordsDir.IsPlain)
    {s : Spec}
    (hcontract : written (config.outputDir.place ++ [contractFile (identifierOf s.contractName)]))
    (hrecord : written (config.recordsDir.place ++ [recordFile (identifierOf s.contractName)]))
    (template code : Text) :
    Tree.Keeps (Tree.Confines written)
      (writeOutputs config s template code : ExceptT Trouble (StateM Tree) Outcome) := by
  have hlong := two_lt_length_recordFile (identifierOf s.contractName)
  have hslash := slash_notMem_recordFile s.contractName
  have hplace : (recordPath config.recordsDir s.contractName).place =
      config.recordsDir.place ++ [recordFile (identifierOf s.contractName)] :=
    Path.place_join config.recordsDir hlong hslash
  have hwrite := confines_writeRecord (hdir'.join hlong hslash) (hplace ▸ hrecord) s
  refine ((confines_writeContract hdir hcontract code).adapt _).bind fun path => ?_
  exact (hwrite.adapt _).bind fun _ => .of_asks (Tree.asks_pure _)

lemma sourceResult_run (t : Tree) (g : Generated) (record : Option Path) :
    (t.run (sourceResult g record)).2 = (t.perform (recordAt g.spec record)).2 := by
  have hrun : t.run (orTrouble (recordAt g.spec record)).run =
      ((t.perform (recordAt g.spec record)).1.mapError Trouble.failure,
        (t.perform (recordAt g.spec record)).2) := rfl
  rw [sourceResult, Tree.run_bind, hrun]
  cases (t.perform (recordAt g.spec record)).1 <;> rfl

/-- The command for a contract writes it, unless it is put out, and the record, if there is to be
one. -/
lemma confines_generateCommand {file : Path} {requested : Option Text} {outDir record : Option Path}
    {toStdout : Bool} {format : Format}
    (hplain : Command.HasPlainPaths config
      (.generate file requested outDir record toStdout format)) :
    Tree.Confines
      (Command.Writes t config (.generate file requested outDir record toStdout format)) t
      (t.run (generateCommand config file requested record toStdout format)).2 := by
  obtain ⟨hdir, hplain⟩ := hplain
  have hrecord : ∀ path ∈ record, Command.Writes t config
      (.generate file requested outDir record toStdout format) path.place := by
    rintro path ⟨⟩
    exact .record file requested outDir path toStdout format
  rw [generateCommand_run]
  rcases hg : (t.perform (generateFrom config file requested)).1 with trouble | g
  · exact refl_of (Tree.Confines _) t
  obtain ⟨markdown, source, hread, hspec, -⟩ := exists_of_generateFrom hg
  cases toStdout with
  | true =>
      simp only [if_true, sourceResult_run]
      exact confines_recordAt hplain hrecord g.spec t
  | false =>
      simp only [Bool.false_eq_true, if_false, toResult_run]
      have hcontract : Command.Writes t config
          (.generate file requested outDir record false format) _ :=
        .contract hread requested outDir record format
      rw [← hspec] at hcontract
      exact confines_writeGenerated (hdir rfl) hplain hcontract hrecord file format t

/-! ### Documents of a batch -/

/-- A document that was found in a directory is a file. -/
lemma Tree.WellFormed.exists_readBytes (ht : t.WellFormed) {dir file : Path} {files : List Path}
    (hfiles : t.documentsIn dir = .ok files) (hfile : file ∈ files) :
    ∃ content, t.readBytes file = .ok content := by
  obtain ⟨entries, name, hentries, hname, hextension, rfl⟩ :=
    Tree.exists_of_mem_documentsIn hfiles hfile
  obtain ⟨place, hdir, hplace, rfl⟩ := Tree.entries_eq_ok_iff.mp hentries
  have hholds : t.HoldsDocument place name := ht.holdsDocument_iff.mpr ⟨hname, hextension⟩
  have hpath := ht.resolve_document hdir hplace hholds
  obtain ⟨-, content, hcontent⟩ := hholds
  obtain ⟨stem, hstem⟩ := exists_append_of_hasExtension hextension
  obtain ⟨front, hfront⟩ := Path.suffix_join dir name
  have hlast : (dir.join name).getLast? ≠ some '/' := by
    rw [← hfront, hstem]
    simp [FileSystem.documentExtension]
  exact ⟨content, Tree.readBytes_eq_ok_iff.mpr ⟨hlast, _, hpath, hcontent⟩⟩

/-- **A batch writes to the contracts and the records of its documents.** No document is written
to, so that each of them is still the one that it was when its turn comes. -/
lemma confines_batchEntries (hdir : config.outputDir.IsPlain) (hdir' : config.recordsDir.IsPlain)
    (hfree : t.LinkFree) {files : List Path}
    (hfiles : ∀ file ∈ files, IsDocument file ∧ ∃ content, t.readBytes file = .ok content)
    (hwritten : ∀ file ∈ files, ∀ markdown, t.readText file = .ok markdown →
      written (config.outputDir.place ++
          [contractFile (identifierOf (Spec.ofText markdown).contractName)]) ∧
        written (config.recordsDir.place ++
          [recordFile (identifierOf (Spec.ofText markdown).contractName)])) :
    t.ConfinedTo written (t.run (batchEntries config files)).2 := by
  induction files generalizing t with
  | nil => exact .refl written t
  | cons file files ih =>
      have hfirst : t.ConfinedTo written (t.run (batchEntry config file)).2 := by
        rw [batchEntry_run]
        rcases processDocument_cases t config file with
          ⟨trouble, hrun⟩ | ⟨markdown, template, source, hread, -, -, hrun⟩
        · rw [hrun]
          exact .refl written t
        · obtain ⟨hcontract, hrecord⟩ := hwritten file List.mem_cons_self markdown hread
          rw [hrun]
          exact (confines_writeOutputs hdir hdir' hcontract hrecord template _ t hfree).2
      have hgrows : t.Grows IsOutput (t.run (batchEntry config file)).2 :=
        (grows_batchEntry hfree config file).mono fun _ h => h.isOutput
      have hkept : ∀ other ∈ files, Tree.readBytes (t.run (batchEntry config file)).2 other =
          t.readBytes other := fun other hother => by
        obtain ⟨⟨stem, hend⟩, content, hcontent⟩ := hfiles other (List.mem_cons_of_mem file hother)
        rw [hcontent]
        exact Tree.readBytes_mono hfree hgrows hend
          (fun ⟨identifier, houtput⟩ => not_isOutputOf_document identifier stem houtput) hcontent
      refine hfirst.trans (ih hgrows.linkFree (fun other hother => ?_)
        fun other hother markdown hread => ?_)
      · obtain ⟨hdocument, hcontent⟩ := hfiles other (List.mem_cons_of_mem file hother)
        exact ⟨hdocument, by rwa [hkept other hother]⟩
      · rw [Tree.readText_congr (hkept other hother)] at hread
        exact hwritten other (List.mem_cons_of_mem file hother) markdown hread

lemma batchCommand_run_of_error {dir : Path} {fault : Fault}
    (hfiles : t.documentsIn dir = .error fault) (config : Config) (format : Format) :
    t.run (batchCommand config dir format) = (.trouble [] (.scanning dir fault), t) := by
  have hrun : t.run (FileSystem.documentsIn dir : ExceptT Fault (StateM Tree) _).run =
      (.error fault, t) := by
    rw [← hfiles]
    exact (Tree.asks_documentsIn dir).perform_eq
  rw [batchCommand, Tree.run_bind, hrun]
  rfl

lemma confines_batchCommand (ht : t.WellFormed) {dir : Path} {outDir recordsDir : Option Path}
    {format : Format}
    (hplain : Command.HasPlainPaths config (.batch dir outDir recordsDir format)) :
    t.ConfinedTo (Command.Writes t config (.batch dir outDir recordsDir format))
      (t.run (batchCommand config dir format)).2 := by
  rcases hfiles : t.documentsIn dir with fault | files
  · rw [batchCommand_run_of_error hfiles]
    exact .refl _ t
  · rw [batchCommand_run hfiles]
    refine confines_batchEntries hplain.1 hplain.2 ht.linkFree (fun file hfile =>
      ⟨Tree.isDocument_of_documentsIn hfiles hfile, ht.exists_readBytes hfiles hfile⟩)
      fun file hfile markdown hread => ?_
    exact ⟨.batchContract hfiles hfile hread outDir recordsDir format,
      .batchRecord hfiles hfile hread outDir recordsDir format⟩

lemma asks_templatesCommand (config : Config) :
    Tree.Asks (templatesCommand config : ExceptT Trouble (StateM Tree) Text) := by
  have hnames : Tree.Asks (config.templates.names : ExceptT Failure (StateM Tree) (List Text)) := by
    cases config.templates with
    | shelf shelf => exact Tree.asks_pure _
    | directory dir =>
        exact ((Tree.asks_ask _).adapt (Failure.io dir)).bind fun entries => Tree.asks_pure _
  exact (hnames.adapt Trouble.failure).bind fun names => Tree.asks_pure _

/-- **A command writes the files that it is for**, and makes the directories above them. -/
lemma Command.confines_run (ht : t.WellFormed) {c : Command} (hplain : c.HasPlainPaths config) :
    t.ConfinedTo (c.Writes t config) (t.run (c.run config)).2 := by
  cases c with
  | parse file output format =>
      have hwritten : ∀ path ∈ output,
          Command.Writes t config (.parse file output format) path.place := by
        rintro path ⟨⟩
        exact .parse file path format
      rw [Command.run, toResult_run]
      exact (confines_parseCommand hplain hwritten file format t ht.linkFree).2
  | generate file requested outDir record toStdout format =>
      exact (confines_generateCommand hplain ht.linkFree).2
  | batch dir outDir recordsDir format => exact confines_batchCommand ht hplain
  | templates =>
      rw [Command.run, toResult_run, asks_templatesCommand config t]
      exact .refl _ t

/-! ### Commands without their input -/

/-- A command ends for want of its input: the document, the template or the directory is not
there, or no document of a batch has its text and its template when its turn comes. A batch then
ends with its report and without a message, the log aside. -/
inductive Command.EndsEarly (t : Tree) (config : Config) : Command → Result → Prop
  | parse {file : Path} {fault : Fault} (hread : t.readText file = .error fault)
      (output : Option Path) (format : Format) :
      EndsEarly t config (.parse file output format) (.trouble [] (.failure (.io file fault)))
  | generate {file : Path} {fault : Fault} (hread : t.readText file = .error fault)
      (requested : Option Text) (outDir record : Option Path) (toStdout : Bool) (format : Format) :
      EndsEarly t config (.generate file requested outDir record toStdout format)
        (.trouble [] (.reading file fault))
  | render {file : Path} {markdown : Text} {failure : Failure} {requested : Option Text}
      (hread : t.readText file = .ok markdown)
      (htemplate : t.template config.templates (selectTemplate (Spec.ofText markdown).contractName
        (requested <|> config.defaultTemplate)) = .error failure)
      (outDir record : Option Path) (toStdout : Bool) (format : Format) :
      EndsEarly t config (.generate file requested outDir record toStdout format)
        (.trouble [] (.failure failure))
  | scan {dir : Path} {fault : Fault} (hfiles : t.documentsIn dir = .error fault)
      (outDir recordsDir : Option Path) (format : Format) :
      EndsEarly t config (.batch dir outDir recordsDir format)
        (.trouble [] (.scanning dir fault))
  | batch {dir : Path} {files : List Path} (hfiles : t.documentsIn dir = .ok files)
      (hlacks : ∀ front file back, files = front ++ file :: back →
        Tree.LacksInput (t.run (batchEntries config front)).2 config file)
      (outDir recordsDir : Option Path) (format : Format) :
      EndsEarly t config (.batch dir outDir recordsDir format)
        ⟨Batch.exit (t.run (batchEntries config files)).1,
          Batch.report (t.run (batchEntries config files)).1 format, []⟩
  | templates {failure : Failure}
      (hnames : (t.perform config.templates.names).1 = .error failure) :
      EndsEarly t config .templates (.trouble [] (.failure failure))

/-- A batch of documents that all lack their input leaves the tree as it was. -/
lemma batchEntries_of_forall_lacksInput {files : List Path}
    (hlacks : ∀ front file back, files = front ++ file :: back →
      Tree.LacksInput (t.run (batchEntries config front)).2 config file) :
    (t.run (batchEntries config files)).2 = t := by
  induction files using List.reverseRecOn with
  | nil => rfl
  | append_singleton front file ih =>
      have hfront : (t.run (batchEntries config front)).2 = t :=
        ih fun before other after hsplit =>
          hlacks before other (after ++ [file]) (by rw [hsplit]; simp)
      obtain ⟨trouble, hfail⟩ :=
        perform_processDocument_of_lacksInput (hlacks front file [] rfl)
      have hlast : Tree.run (t.run (batchEntries config front)).2 (batchEntries config [file]) =
          ([⟨file, .failed trouble.report⟩], (t.run (batchEntries config front)).2) := by
        rw [batchEntries_cons_run, batchEntry_run, hfail]
        rfl
      rw [batchEntries_append_run]
      simp only
      rw [hlast, hfront]

/-- **A command that ends for want of its input** leaves the tree as it was. -/
lemma Command.EndsEarly.run_eq {c : Command} {result : Result} (h : c.EndsEarly t config result) :
    t.run (c.run config) = (result, t) := by
  cases h with
  | parse hread output format =>
      rename_i file fault
      have hrun : t.perform (parseCommand file output format) =
          (.error (.failure (.io file fault)), t) := by
        rw [parseCommand, Tree.perform_bind, orTrouble, Tree.perform_adapt, Tree.perform_ofFile,
          hread]
        rfl
      rw [Command.run, toResult_run, hrun]
  | generate hread requested outDir record toStdout format =>
      rw [Command.run, generateCommand_run, perform_generateFrom, hread]
  | render hread htemplate outDir record toStdout format =>
      rw [Command.run, generateCommand_run, perform_generateFrom, hread]
      simp only [htemplate]
  | scan hfiles outDir recordsDir format => exact batchCommand_run_of_error hfiles config format
  | batch hfiles hlacks outDir recordsDir format =>
      rw [Command.run, batchCommand_run hfiles, batchEntries_of_forall_lacksInput hlacks]
  | templates hnames =>
      rename_i failure
      have hrun : (t.perform (templatesCommand config)).1 = .error (.failure failure) := by
        rw [templatesCommand, Tree.perform_bind, orTrouble, Tree.perform_adapt, hnames]
        rfl
      rw [Command.run, toResult_run, asks_templatesCommand config t, hrun]

/-- An invocation ends early if its configuration is not loaded, or if its command does. -/
inductive Invocation.EndsEarly (t : Tree) (root : Path) (env : Environment) (i : Invocation) :
    Result → Prop
  | load {failure : Failure}
      (hload : (t.perform (Config.load root i.overrides env)).1 = .error failure) :
      EndsEarly t root env i
        ⟨1, [], "Error loading configuration: " ++ failure.message ++ ['\n']⟩
  | command {config : Config} {result : Result}
      (hload : (t.perform (Config.load root i.overrides env)).1 = .ok config)
      (h : i.command.EndsEarly t config result) : EndsEarly t root env i result

lemma Invocation.EndsEarly.run_eq {root : Path} {env : Environment} {i : Invocation}
    {result : Result} (h : i.EndsEarly t root env result) :
    t.run (i.run root env) = (result, t) := by
  cases h with
  | load hload =>
      rename_i failure
      have hrun : t.run (Config.load root i.overrides env : ExceptT Failure (StateM Tree) _).run =
          (.error failure, t) := by
        rw [← hload]
        exact (Tree.asks_load_config root i.overrides env).perform_eq
      rw [Invocation.run, Tree.run_bind, hrun]
      rfl
  | command hload h => rw [Invocation.run_of_load hload, h.run_eq]

/-! ### Command lines -/

/-- **What a command line writes.** In a tree without links, and with plain paths to write to, it
deletes nothing, writes no other files than its command is for, and makes no other directories
than those above them. If it ends for want of its configuration, a document, a template or a
directory, it leaves the tree as it was. On any tree, a contract or a record that could not be
written has changed no file. -/
theorem run_confined (ht : t.WellFormed) {arguments : List Text} {i : Invocation}
    (hi : Arguments.read arguments = .ok i) (root : Path) (env : Environment) :
    let ran := t.run (run root env arguments)
    (∀ config, (t.perform (Config.load root i.overrides env)).1 = .ok config →
      i.command.HasPlainPaths config →
      t.ConfinedTo (i.command.Writes t config) ran.2 ∧
        ∀ place entry, t.entry? place = some entry →
          ∃ entry', Tree.entry? ran.2 place = some entry' ∧ entry'.kind = entry.kind) ∧
    (∀ result, i.EndsEarly t root env result → ran = (result, t)) ∧
    (∀ (t : Tree) code name dir failure,
      (t.perform (writeContract code name dir)).1 = .error failure →
        t.KeepsFiles (t.perform (writeContract code name dir)).2) ∧
    ∀ (t : Tree) s path failure, (t.perform (writeRecord s path)).1 = .error failure →
      t.KeepsFiles (t.perform (writeRecord s path)).2 := by
  intro ran
  have hran : ran = t.run (i.run root env) := by simp only [ran, run, hi]
  refine ⟨fun config hload hplain => ?_, fun result h => hran.trans h.run_eq,
    fun t code name dir failure hfail => ?_, fun t s path failure hfail => ?_⟩
  · have hconfined : t.ConfinedTo (i.command.Writes t config) ran.2 := by
      rw [hran, Invocation.run_of_load hload]
      exact Command.confines_run ht hplain
    exact ⟨hconfined, fun place entry hentry => (hconfined place).exists_entry hentry⟩
  · rcases perform_writeContract_cases t code name dir with ⟨-, hkeeps⟩ | ⟨hok, -⟩
    · exact hkeeps
    · cases hfail.symm.trans hok
  · rcases perform_writeRecord_cases t s path with ⟨-, hkeeps⟩ | ⟨hok, -⟩
    · exact hkeeps
    · cases hfail.symm.trans hok

/-- A document stays as it is while its record is written. -/
theorem run_confined_singleTree :
    let ran := singleTree.run (run [] (fun _ => none) ["parse", "specs/a.md", "-o", "out/a.json"])
    singleTree.WellFormed ∧
      Tree.entry? ran.2 ["specs", "a.md"] = singleTree.entry? ["specs", "a.md"] := by
  have hi : Arguments.read ["parse", "specs/a.md", "-o", "out/a.json"] =
      .ok ⟨false, none, none, .parse "specs/a.md" (some "out/a.json") .human⟩ := rfl
  have hconfig : (singleTree.perform (Config.load [] ⟨none, none, none, none⟩ fun _ => none)).1 =
      .ok Config.default := rfl
  have hplain : Path.IsPlain "out/a.json" := by decide
  obtain ⟨hconfined, -⟩ := (run_confined wellFormed_singleTree hi [] fun _ => none).1
    Config.default hconfig fun path hpath => Option.some.inj hpath ▸ hplain
  have hwrites : ¬ Command.Writes singleTree Config.default
      (.parse "specs/a.md" (some "out/a.json") .human) ["specs", "a.md"] := by
    intro h
    generalize hplace : (["specs", "a.md"] : Place) = place at h
    cases h
    exact absurd hplace (by decide)
  exact ⟨wellFormed_singleTree, hconfined.entry?_eq hwrites rfl⟩

end Commands

end ContractScaffold
