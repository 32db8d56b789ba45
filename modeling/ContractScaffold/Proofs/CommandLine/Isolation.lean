/-
Batches with documents that fail. A document that lacks its text or its template changes
nothing: the other documents of its directory are generated as if it had never been there.

* `Tree.Overlooks`: programs that do not see that an entry is gone.
* `Config.Avoids`, `overlooks_writeOutputs`: the places that a batch writes nothing to, and
  nothing through.
* `Tree.LacksInput`: the documents that fail before anything is written.
* `Tree.template_without`, `batchEntries_without`: a batch of the other documents does not see
  that a document is gone.
* `batchCommand_isolates`: what a batch reports on, and how it ends; and a document that lacks
  its input might as well not be there.
-/
import ContractScaffold.Proofs.CommandLine.Batch
import ContractScaffold.Proofs.Tree.Removal

namespace ContractScaffold

open Text

namespace Tree

variable {ε α β : Type} {t : Tree} {gone : Place}

/-! ### Programs that do not see that an entry is gone -/

/-- Without the entry at the place, the program gives what it gives with it, and leaves the
same tree without the entry. -/
def Overlooks (gone : Place) (program : ExceptT ε (StateM Tree) α) : Prop :=
  ∀ t : Tree, t.LinkFree → (t.perform program).2.LinkFree ∧
    Tree.perform (t.without gone) program =
      ((t.perform program).1, Tree.without (t.perform program).2 gone)

lemma overlooks_pure (gone : Place) (a : α) :
    Overlooks gone (pure a : ExceptT ε (StateM Tree) α) := fun _ hfree => ⟨hfree, rfl⟩

lemma overlooks_throw (gone : Place) (e : ε) :
    Overlooks gone (throw e : ExceptT ε (StateM Tree) α) := fun _ hfree => ⟨hfree, rfl⟩

namespace Overlooks

variable {program : ExceptT ε (StateM Tree) α}

lemma bind (h : Overlooks gone program) {next : α → ExceptT ε (StateM Tree) β}
    (hnext : ∀ a, Overlooks gone (next a)) : Overlooks gone (program >>= next) := by
  intro t hfree
  obtain ⟨hfree', hrun⟩ := h t hfree
  rw [perform_bind, perform_bind, hrun]
  generalize t.perform program = run at hfree' ⊢
  obtain ⟨e | a, t'⟩ := run
  · exact ⟨hfree', rfl⟩
  · exact hnext a t' hfree'

lemma adapt {ε' : Type} (h : Overlooks gone program) (f : ε → ε') :
    Overlooks gone (program.adapt f) := by
  intro t hfree
  obtain ⟨hfree', hrun⟩ := h t hfree
  exact ⟨hfree', by rw [perform_adapt, perform_adapt, hrun]⟩

lemma outcome {program : ExceptT Fault (StateM Tree) α} (h : Overlooks gone program) :
    Overlooks gone (FileSystem.outcome program) := by
  intro t hfree
  obtain ⟨hfree', hrun⟩ := h t hfree
  exact ⟨hfree', by rw [perform_outcome, perform_outcome, hrun]⟩

end Overlooks

/-! ### Directories and files -/

lemma overlooks_isKind {path : Path} (havoid : ¬ path.LeadsThrough gone) (wanted : Kind) :
    Overlooks gone (FileSystem.isKind wanted path : ExceptT Fault (StateM Tree) Bool) := by
  have hkind : Overlooks gone (FileSystem.kind path : ExceptT Fault (StateM Tree) Kind) := by
    intro t hfree
    have hwithout : (t.without gone).kind path = t.kind path := by
      rw [kind, kind, find_without hfree havoid]
    exact ⟨hfree, congrArg (·, t.without gone) hwithout⟩
  refine hkind.outcome.bind fun found => ?_
  cases found <;> exact overlooks_pure gone _

lemma overlooks_makeDirectory {path : Path} (havoid : ¬ path.LeadsThrough gone) :
    Overlooks gone (FileSystem.makeDirectory path : ExceptT Fault (StateM Tree) Unit) := by
  intro t hfree
  rw [perform_makeDirectory, perform_makeDirectory, makeDirectory_without hfree havoid]
  rcases hmake : t.makeDirectory path with fault | t'
  · exact ⟨hfree, rfl⟩
  · have hgrows : t.Grows (fun _ => True) t' := (makeDirectory_spec hfree hmake).1
    exact ⟨hgrows.linkFree, rfl⟩

/-- A directory that stands in the way is asked for, and nothing is made. -/
lemma overlooks_unlessKind {path : Path} (havoid : ¬ path.LeadsThrough gone) (fault : Fault) :
    Overlooks gone (do
      if ← FileSystem.isKind .directory path then return () else throw fault :
        ExceptT Fault (StateM Tree) Unit) := by
  refine (overlooks_isKind havoid .directory).bind fun found => ?_
  cases found
  · exact overlooks_throw gone fault
  · exact overlooks_pure gone ()

lemma overlooks_ensureDirectory {path : Path} (havoid : ¬ path.LeadsThrough gone) :
    Overlooks gone (FileSystem.ensureDirectory path : ExceptT Fault (StateM Tree) Unit) := by
  refine (overlooks_makeDirectory havoid).outcome.bind fun r => ?_
  rcases r with fault | ⟨⟩
  · exact overlooks_unlessKind havoid fault
  · exact overlooks_pure gone ()

lemma overlooks_makeChain {chain : List Path}
    (havoid : ∀ path ∈ chain, ¬ path.LeadsThrough gone) :
    Overlooks gone (FileSystem.makeChain chain : ExceptT Fault (StateM Tree) Unit) := by
  induction chain with
  | nil => exact overlooks_pure gone ()
  | cons path above ih =>
      obtain ⟨hpath, habove⟩ := List.forall_mem_cons.mp havoid
      refine (overlooks_makeDirectory hpath).outcome.bind fun r => ?_
      rcases r with fault | ⟨⟩
      · cases fault
        case notFound => exact (ih habove).bind fun _ => overlooks_ensureDirectory hpath
        all_goals exact overlooks_unlessKind hpath _
      · exact overlooks_pure gone ()

/-- The directories of a path are made as if the entry were there. -/
lemma overlooks_makeDirectories {path : Path} (havoid : ¬ path.LeadsThrough gone) :
    Overlooks gone (FileSystem.makeDirectories path : ExceptT Fault (StateM Tree) Unit) :=
  overlooks_makeChain fun _ habove hthrough => havoid (.of_mem_ancestors habove hthrough)

/-- A file is written as if the entry were there. -/
lemma overlooks_writeText {path : Path} {name : Text} (hend : path.EndsIn name)
    (havoid : ¬ path.LeadsThrough gone) (text : Text) :
    Overlooks gone (FileSystem.writeText path text : ExceptT Fault (StateM Tree) Unit) := by
  intro t hfree
  rw [perform_writeText, perform_writeText, writeBytes_without hfree havoid]
  rcases hwrite : t.writeBytes path (utf8 text) with fault | t'
  · exact ⟨hfree, rfl⟩
  · obtain ⟨hgrows, -⟩ := writeBytes_spec hfree hend hwrite
    exact ⟨hgrows.linkFree, rfl⟩

end Tree

/-! ### Contracts and records -/

section Writing

variable {gone : Place} {config : Config}

/-- A place that a batch writes nothing to and nothing through: no directory of the
configuration leads through it, and it has not the name of a contract or a record. -/
structure Config.Avoids (config : Config) (gone : Place) : Prop where
  outputDir : ¬ config.outputDir.LeadsThrough gone
  recordsDir : ¬ config.recordsDir.LeadsThrough gone
  name : ∀ name ∈ gone.getLast?, ¬ IsOutput name

lemma Config.Avoids.contractPath (h : config.Avoids gone) (name : Text) :
    ¬ (contractPath config.outputDir name).LeadsThrough gone := by
  intro hthrough
  rcases hthrough.of_join (two_lt_length_contractFile _) (slash_notMem_contractFile name)
    with hdir | hlast
  · exact h.outputDir hdir
  · exact h.name _ hlast ⟨identifierOf name, .inl rfl⟩

lemma Config.Avoids.recordPath (h : config.Avoids gone) (name : Text) :
    ¬ (recordPath config.recordsDir name).LeadsThrough gone := by
  intro hthrough
  rcases hthrough.of_join (two_lt_length_recordFile _) (slash_notMem_recordFile name)
    with hdir | hlast
  · exact h.recordsDir hdir
  · exact h.name _ hlast ⟨identifierOf name, .inr rfl⟩

lemma overlooks_writeContract (h : config.Avoids gone) (code name : Text) :
    Tree.Overlooks gone (writeContract code name config.outputDir :
      ExceptT Failure (StateM Tree) Path) := by
  refine ((Tree.overlooks_makeDirectories h.outputDir).adapt _).bind fun _ => ?_
  refine ((Tree.overlooks_writeText (endsIn_contractPath config.outputDir name)
    (h.contractPath name) code).adapt _).bind fun _ => ?_
  exact Tree.overlooks_pure gone _

lemma overlooks_writeRecord (h : config.Avoids gone) (s : Spec) :
    Tree.Overlooks gone (writeRecord s (recordPath config.recordsDir s.contractName) :
      ExceptT Failure (StateM Tree) Unit) := by
  have hwrite := (Tree.overlooks_writeText (endsIn_recordPath config.recordsDir s.contractName)
    (h.recordPath s.contractName) s.indented).adapt
      (Failure.io (recordPath config.recordsDir s.contractName))
  rw [writeRecord]
  rcases hparent : (recordPath config.recordsDir s.contractName).parent? with _ | above
  · exact (Tree.overlooks_pure gone ()).bind fun _ => hwrite
  · have habove : ¬ above.LeadsThrough gone := fun hthrough =>
      h.recordPath s.contractName (hthrough.of_parent? hparent)
    exact ((Tree.overlooks_makeDirectories habove).adapt _).bind fun _ => hwrite

/-- The contract and the record of a document are written as if the entry were there. -/
lemma overlooks_writeOutputs (h : config.Avoids gone) (s : Spec) (template code : Text) :
    Tree.Overlooks gone (writeOutputs config s template code :
      ExceptT Trouble (StateM Tree) Outcome) := by
  refine ((overlooks_writeContract h code s.contractName).adapt _).bind fun path => ?_
  refine ((overlooks_writeRecord h s).adapt _).bind fun _ => ?_
  exact Tree.overlooks_pure gone _

end Writing

/-! ### What documents are read from -/

namespace Tree

variable {t : Tree} {gone : Place}

/-- A text is read from the content of a file. -/
lemma readText_congr {t' : Tree} {path : Path} (h : t'.readBytes path = t.readBytes path) :
    t'.readText path = t.readText path := by
  have hread : ∀ t : Tree, t.perform (FileSystem.readBytes path) = (t.readBytes path, t) :=
    fun _ => rfl
  rw [readText, readText, FileSystem.readText, perform_bind, perform_bind, hread, hread, h]
  rcases t.readBytes path with fault | bytes
  · rfl
  · simp only
    cases ofUtf8? bytes <;> rfl

/-- A document at another place is read as if the entry were there. -/
lemma readText_without {path : Path} {place : Place} (hpath : t.resolve path = .ok place)
    (hwithout : Tree.resolve (t.without gone) path = .ok place) (hne : place ≠ gone) :
    Tree.readText (t.without gone) path = t.readText path :=
  readText_congr (by rw [readBytes, readBytes, find_without_of_resolve hpath hwithout hne])

/-- A directory gives the templates that are regular files. -/
lemma template_directory (t : Tree) (dir : Path) (name : Text) :
    t.template (.directory dir) name =
      if isTemplateName name = true ∧ t.kind (templatePath dir name) = .ok .file then
        (t.readText (templatePath dir name)).mapError (Failure.io (templatePath dir name))
      else .error (.templateNotFound name) := by
  obtain ⟨found, hfound, hiff⟩ := t.perform_isKind .file (templatePath dir name)
  rw [template, TemplateSource.load]
  by_cases hname : isTemplateName name = true
  · rw [if_pos hname, perform_bind, atPath, perform_adapt, hfound]
    cases found with
    | true =>
        rw [if_pos ⟨hname, hiff.mp rfl⟩]
        simp only [Except.mapError, if_true, perform_atPath_readText]
    | false =>
        rw [if_neg fun h => by simpa using hiff.mpr h.2]
        rfl
  · rw [if_neg hname, if_neg fun h => hname h.1]
    rfl

/-- **A template is the same without a file of another name.** -/
lemma template_without (hfree : t.LinkFree) {content : List UInt8}
    (hgone : t.entry? gone = some (.file content)) {name : Text}
    (hname : gone.getLast? ≠ some (contractFile name)) (source : TemplateSource) :
    Tree.template (t.without gone) source name = t.template source name := by
  cases source with
  | shelf shelf => rfl
  | directory dir =>
      rw [template_directory, template_directory]
      by_cases htemplate : isTemplateName name = true
      · have hresolve : ∀ {place}, Tree.resolve (t.without gone) (templatePath dir name) =
            .ok place ↔ t.resolve (templatePath dir name) = .ok place :=
          resolve_without_eq_ok_iff hfree hgone
        rcases hpath : t.resolve (templatePath dir name) with fault | place
        · -- the path leads nowhere, with the file and without it
          have hnone : ∀ t' : Tree,
              (∀ place, t'.resolve (templatePath dir name) = .ok place →
                t.resolve (templatePath dir name) = .ok place) →
              ¬ (isTemplateName name = true ∧ t'.kind (templatePath dir name) = .ok .file) := by
            rintro t' hback ⟨-, hkind⟩
            obtain ⟨bytes, hbytes⟩ := kind_eq_file_iff.mp hkind
            obtain ⟨-, place, hplace, -⟩ := readBytes_eq_ok_iff.mp hbytes
            simpa [hpath] using hback place hplace
          rw [if_neg (hnone t fun _ => id), if_neg (hnone _ fun _ => hresolve.mp)]
        · have hne : place ≠ gone := by
            rintro rfl
            exact hname (getLast?_of_resolve hfree (endsIn_templatePath dir htemplate) hpath)
          have hwithout := hresolve.mpr hpath
          rw [kind, kind, find_without_of_resolve hpath hwithout hne,
            readText_without hpath hwithout hne]
      · rw [if_neg fun h => htemplate h.1, if_neg fun h => htemplate h.1]

/-- The document has no text, or its text calls for a template that there is not. -/
def LacksInput (t : Tree) (config : Config) (file : Path) : Prop :=
  (∃ fault, t.readText file = .error fault) ∨
    ∃ markdown, t.readText file = .ok markdown ∧
      ∃ failure, t.template config.templates
        (selectTemplate (Spec.ofText markdown).contractName config.defaultTemplate) =
          .error failure

end Tree

/-! ### Documents and batches -/

section Batch

variable {t : Tree} {config : Config} {gone : Place}

/-- **A document that lacks its input fails**, and leaves the tree as it was. -/
lemma perform_processDocument_of_lacksInput {file : Path} (h : t.LacksInput config file) :
    ∃ trouble, t.perform (processDocument config file) = (.error trouble, t) := by
  rw [perform_processDocument_eq]
  rcases h with ⟨fault, hread⟩ | ⟨markdown, hread, failure, hsource⟩
  · exact ⟨.failure (.io file fault), by rw [hread]⟩
  · exact ⟨.rendering file failure, by simp only [hread, hsource]⟩

/-- **Another document is generated as if the entry were there.** -/
lemma perform_processDocument_without (h : config.Avoids gone) (hfree : t.LinkFree)
    {content : List UInt8} (hgone : t.entry? gone = some (.file content)) {file : Path}
    {place : Place} (hfile : t.resolve file = .ok place) (hne : place ≠ gone) :
    Tree.perform (t.without gone) (processDocument config file) =
      ((t.perform (processDocument config file)).1,
        Tree.without (t.perform (processDocument config file)).2 gone) := by
  have hread : Tree.readText (t.without gone) file = t.readText file :=
    Tree.readText_without hfile ((Tree.resolve_without_eq_ok_iff hfree hgone).mpr hfile) hne
  have htemplate : ∀ name, Tree.template (t.without gone) config.templates name =
      t.template config.templates name := fun name =>
    Tree.template_without hfree hgone (fun hlast => h.name _ hlast ⟨name, .inl rfl⟩) _
  rw [perform_processDocument_eq, perform_processDocument_eq, hread]
  rcases t.readText file with fault | markdown
  · rfl
  simp only [htemplate]
  rcases t.template config.templates
    (selectTemplate (Spec.ofText markdown).contractName config.defaultTemplate)
    with failure | source
  · rfl
  · exact (overlooks_writeOutputs h _ _ _ t hfree).2

lemma batchEntry_without (h : config.Avoids gone) (hfree : t.LinkFree) {content : List UInt8}
    (hgone : t.entry? gone = some (.file content)) {file : Path} {place : Place}
    (hfile : t.resolve file = .ok place) (hne : place ≠ gone) :
    Tree.run (t.without gone) (batchEntry config file) =
      ((t.run (batchEntry config file)).1,
        Tree.without (t.run (batchEntry config file)).2 gone) := by
  rw [batchEntry_run, batchEntry_run, perform_processDocument_without h hfree hgone hfile hne]

/-- **A batch of other documents does not see that the entry is gone.** -/
lemma batchEntries_without (h : config.Avoids gone) (hfree : t.LinkFree) {content : List UInt8}
    (hgone : t.entry? gone = some (.file content)) {files : List Path}
    (hfiles : ∀ file ∈ files, ∃ place, t.resolve file = .ok place ∧ place ≠ gone) :
    Tree.run (t.without gone) (batchEntries config files) =
      ((t.run (batchEntries config files)).1,
        Tree.without (t.run (batchEntries config files)).2 gone) := by
  induction files generalizing t content with
  | nil => rfl
  | cons file files ih =>
      obtain ⟨⟨place, hfile, hne⟩, hrest⟩ := List.forall_mem_cons.mp hfiles
      have hgrows := grows_batchEntry hfree config file
      have hfirst := batchEntry_without h hfree hgone hfile hne
      -- the file is still there, and the other documents are where they were
      obtain ⟨content', hgone', -⟩ := hgrows.file hgone
      have hrest' := ih hgrows.linkFree hgone' fun other hother => by
        obtain ⟨place, hother, hne⟩ := hrest other hother
        exact ⟨place, Tree.resolve_mono hfree hgrows hother, hne⟩
      simp only [batchEntries_cons_run]
      rw [hfirst]
      simp only
      rw [hrest']

/-- A batch ends with one or zero, as one of its documents failed or none. -/
lemma Batch.exit_spec (b : Batch) : (b.exit = 1 ↔ ∃ e ∈ b, e.isFailed = true) ∧
    (b.exit = 0 ↔ ∀ e ∈ b, e.isFailed = false) := by
  have hexit : b.exit = if ∃ e ∈ b, e.isFailed = true then 1 else 0 := by
    simp only [Batch.exit, List.any_eq_true]
  rw [hexit]
  split_ifs with hfailed
  · simpa using hfailed
  · simpa using hfailed

/-- A directory leads to no document in it, and no output has its name. -/
lemma Config.avoids_document {place : Place} {name : Text}
    (hname : t.HoldsDocument place name)
    (houtput : ¬ config.outputDir.LeadsThrough (place ++ [name]))
    (hrecords : ¬ config.recordsDir.LeadsThrough (place ++ [name])) :
    config.Avoids (place ++ [name]) where
  outputDir := houtput
  recordsDir := hrecords
  name last hlast := by
    rw [List.getLast?_concat] at hlast
    obtain rfl : name = last := Option.some.inj hlast
    obtain ⟨stem, rfl⟩ := exists_append_of_hasExtension hname.1
    exact fun ⟨identifier, h⟩ => not_isOutputOf_document identifier stem h

/-- A document that lacks its input when its turn comes leaves the rest of the batch as it
is. -/
lemma batchEntries_of_lacksInput {front : List Path} {file : Path}
    (hlacks : Tree.LacksInput (t.run (batchEntries config front)).2 config file)
    (back : List Path) :
    ∃ before e after, e.file = file ∧ e.isFailed = true ∧
      before.map BatchEntry.file = front ∧
      t.run (batchEntries config (front ++ file :: back)) =
        (before ++ e :: after, (t.run (batchEntries config (front ++ back))).2) ∧
      (t.run (batchEntries config (front ++ back))).1 = before ++ after := by
  obtain ⟨trouble, hfail⟩ := perform_processDocument_of_lacksInput hlacks
  have hentry := batchEntry_run (t.run (batchEntries config front)).2 config file
  rw [hfail] at hentry
  refine ⟨(t.run (batchEntries config front)).1, ⟨file, .failed trouble.report⟩,
    (Tree.run (t.run (batchEntries config front)).2 (batchEntries config back)).1, rfl, rfl,
    map_file_batchEntries t config front, ?_, ?_⟩
  · simp only [batchEntries_append_run, batchEntries_cons_run, hentry]
  · rw [batchEntries_append_run]

/-- **A batch reports on every document of its directory**, in the order of their names, and
fails if one of them does. A document that has no text, or no template, when its turn comes
fails; and without it, the batch reports the same on the others and leaves the same tree
otherwise. Either batch ends without a message: warnings in a log are no part of a result. -/
theorem batchCommand_isolates {place : Place} (ht : t.WellFormed) {dir : Path}
    (hdir : t.resolve dir = .ok place) (hplace : t.entry? place = some .directory)
    (config : Config) (format : Format) :
    let ran := t.run (batchCommand config dir format)
    ∃ names, ListsInOrder (t.HoldsDocument place) names ∧
      let batch := (t.run (batchEntries config (names.map dir.join))).1
      ran.1 = ⟨batch.exit, batch.report format, []⟩ ∧
      batch.map BatchEntry.file = names.map dir.join ∧
      (batch.exit = 1 ↔ ∃ e ∈ batch, e.isFailed = true) ∧
      (batch.exit = 0 ↔ ∀ e ∈ batch, e.isFailed = false) ∧
      ((∀ e ∈ batch, ∃ text, t.readText e.file = .ok text) →
        ∃ specs, (t.perform (Spec.ofDirectory dir)).1 = .ok specs ∧
          specs.map Prod.fst = batch.map BatchEntry.file) ∧
      ∀ front name back, names = front ++ name :: back →
        Tree.LacksInput (t.run (batchEntries config (front.map dir.join))).2 config
          (dir.join name) →
        ¬ config.outputDir.LeadsThrough (place ++ [name]) →
        ¬ config.recordsDir.LeadsThrough (place ++ [name]) →
        ∃ before e after, batch = before ++ e :: after ∧ e.file = dir.join name ∧
          before.map BatchEntry.file = front.map dir.join ∧ e.isFailed = true ∧
          Tree.run (t.without (place ++ [name])) (batchCommand config dir format) =
            (⟨Batch.exit (before ++ after), Batch.report (before ++ after) format, []⟩,
              Tree.without ran.2 (place ++ [name])) := by
  intro ran
  obtain ⟨names, hnames, hfiles⟩ := ht.documentsIn_directory hdir hplace
  have hran : ran = _ := batchCommand_run hfiles config format
  refine ⟨names, hnames, congrArg Prod.fst hran, map_file_batchEntries t config _,
    (Batch.exit_spec _).1, (Batch.exit_spec _).2, fun hread => ?_, ?_⟩
  · have hmap := map_file_batchEntries t config (names.map dir.join)
    obtain ⟨specs, hspecs, hpaths⟩ := Tree.exists_perform_ofDirectory hfiles fun file hfile => by
      rw [← hmap] at hfile
      obtain ⟨e, he, rfl⟩ := List.mem_map.mp hfile
      exact hread e he
    exact ⟨specs, hspecs, hpaths.trans hmap.symm⟩
  rintro front name back rfl hlacks houtput hrecords
  have hname : t.HoldsDocument place name := (hnames.mem_iff name).mp (by simp)
  have havoids := Config.avoids_document hname houtput hrecords
  have hfound := ht.documentsIn_without hdir hplace hnames
  obtain ⟨-, content, hfile⟩ := hname
  rw [List.map_append, List.map_cons] at *
  obtain ⟨before, e, after, he, hfailed, hbefore, hwith, hothers⟩ :=
    batchEntries_of_lacksInput hlacks (back.map dir.join)
  refine ⟨before, e, after, congrArg Prod.fst hwith, he, hbefore, hfailed, ?_⟩
  have helsewhere : ∀ file ∈ (front ++ back).map dir.join,
      ∃ there, t.resolve file = .ok there ∧ there ≠ place ++ [name] := by
    intro file hmem
    obtain ⟨other, hother, rfl⟩ := List.mem_map.mp hmem
    obtain ⟨hholds, hne⟩ := (hnames.without.mem_iff other).mp hother
    exact ⟨_, ht.resolve_document hdir hplace hholds, by simp [hne]⟩
  have hbatch := batchEntries_without havoids ht.linkFree hfile helsewhere
  rw [List.map_append] at hbatch
  rw [batchCommand_run hfound, hbatch, hothers, hran, hwith]

/-- A directory with a document that is no text, and one that is. -/
def brokenTree : Tree := [
  (["specs"], .directory),
  (["specs", "bad.md"], .file [0xff]),
  (["specs", "good.md"], .file (utf8 (namedDocument "Good")))]

lemma wellFormed_brokenTree : brokenTree.WellFormed where
  linkFree := by decide
  nodup := by decide
  names := by decide

lemma listsInOrder_brokenTree :
    ListsInOrder (brokenTree.HoldsDocument ["specs"]) ["bad.md", "good.md"] where
  sorted := by decide
  nodup := by decide
  mem_iff name := by
    have hlisting : brokenTree.listing ["specs"] =
        ([("bad.md", Kind.file), ("good.md", Kind.file)] : List (Text × Kind)) := rfl
    have hdocuments : ∀ name ∈ (["bad.md", "good.md"] : List Text),
        hasExtension FileSystem.documentExtension name = true := by decide
    rw [wellFormed_brokenTree.holdsDocument_iff, hlisting]
    constructor
    · intro hname
      exact ⟨by simpa using hname, hdocuments name hname⟩
    · rintro ⟨hname, -⟩
      simpa using hname

/-- No default directory leads to the document that is no text. -/
lemma avoids_brokenTree : ∀ dir ∈ [Config.default.outputDir, Config.default.recordsDir],
    ¬ dir.LeadsThrough ["specs", "bad.md"] := by
  have hplain : ∀ dir ∈ [Config.default.outputDir, Config.default.recordsDir],
      (∀ name ∈ dir.parts, name ≠ ['.'] ∧ name ≠ ['.', '.']) ∧
        Tree.startOf [] dir = [] ∧ ¬ (["specs", "bad.md"] : Place) <+: dir.parts := by decide
  intro dir hdir
  obtain ⟨hnames, hstart, havoid⟩ := hplain dir hdir
  rw [Path.leadsThrough_iff_prefix hnames, hstart]
  rintro ⟨names, hbegin, hplace⟩
  obtain rfl : (["specs", "bad.md"] : Place) = names := hplace
  exact havoid hbegin

/-- The other document of the directory is generated as if the one that is no text were not
there. -/
theorem batchCommand_isolates_brokenTree :
    brokenTree.WellFormed ∧ brokenTree.resolve "specs" = .ok ["specs"] ∧
      brokenTree.entry? ["specs"] = some .directory ∧
      brokenTree.LacksInput Config.default "specs/bad.md" ∧
      ∃ e after,
        (brokenTree.run (batchEntries Config.default ["specs/bad.md", "specs/good.md"])).1 =
          e :: after ∧ e.isFailed = true ∧
        Tree.run (brokenTree.without ["specs", "bad.md"])
            (batchCommand Config.default "specs" .human) =
          (⟨Batch.exit after, Batch.report after .human, []⟩,
            Tree.without (brokenTree.run (batchCommand Config.default "specs" .human)).2
              ["specs", "bad.md"]) := by
  have hdir : brokenTree.resolve "specs" = .ok ["specs"] := rfl
  have hplace : brokenTree.entry? ["specs"] = some .directory := rfl
  have hlacks : brokenTree.LacksInput Config.default "specs/bad.md" :=
    .inl ⟨.notText, by decide +kernel⟩
  obtain ⟨names, hnames, -, -, -, -, -, hisolates⟩ :=
    batchCommand_isolates wellFormed_brokenTree hdir hplace Config.default .human
  obtain rfl := hnames.unique listsInOrder_brokenTree
  obtain ⟨before, e, after, hbatch, -, hbefore, hfailed, hrun⟩ :=
    hisolates [] "bad.md" ["good.md"] rfl hlacks (avoids_brokenTree _ (by simp))
      (avoids_brokenTree _ (by simp))
  obtain rfl : before = [] := List.map_eq_nil_iff.mp hbefore
  exact ⟨wellFormed_brokenTree, hdir, hplace, hlacks, e, after, hbatch, hfailed, hrun⟩

end Batch

end ContractScaffold
