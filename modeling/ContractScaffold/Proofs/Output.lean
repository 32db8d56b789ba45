/-
Files of contracts, records, templates and documents: their names, and what writing a
contract or a record leaves behind.

* `contractFile`, `recordFile`, `IsOutputOf`: the names of the files that a contract is
  written to. They tell the identifiers apart, and no document has one of them.
* `endsIn_contractPath`, `endsIn_recordPath`, `endsIn_templatePath`,
  `Tree.isDocument_of_documentsIn`: the paths of contracts, records, templates and documents
  end in their names.
* `Tree.template_mono`: a template is still there, unless a contract was written in its place.
* `yields_writeContract`, `yields_writeRecord`: what was written is there.
* `perform_writeContract`, `perform_writeRecord`: what was written is written again.
-/
import ContractScaffold.Proofs.FileSystem
import ContractScaffold.Proofs.Identifier
import ContractScaffold.Generation
import ContractScaffold.Template.Source

namespace ContractScaffold

open Text

/-! ### Names of files -/

/-- The name of the file of a contract, and of a template. -/
def contractFile (identifier : Text) : Text :=
  identifier ++ '.' :: sourceExtension

/-- The name of the file of a record. -/
def recordFile (identifier : Text) : Text :=
  identifier ++ ".json"

/-- The names of the files that a contract is written to. -/
def IsOutputOf (identifier name : Text) : Prop :=
  name = contractFile identifier ∨ name = recordFile identifier

/-- The names of contracts are not those of records. -/
lemma contractFile_ne_recordFile (identifier other : Text) :
    contractFile identifier ≠ recordFile other := by
  intro h
  have hlast := congrArg List.getLast? h
  simp [contractFile, recordFile, sourceExtension] at hlast

/-- The file tells the identifier. -/
lemma IsOutputOf.identifier_eq {identifier other name : Text} (h : IsOutputOf identifier name)
    (hother : IsOutputOf other name) : identifier = other := by
  rcases h with rfl | rfl <;> rcases hother with h | h
  · exact List.append_cancel_right h
  · exact absurd h (contractFile_ne_recordFile _ _)
  · exact absurd h.symm (contractFile_ne_recordFile _ _)
  · exact List.append_cancel_right h

/-- No document is written to. -/
lemma not_isOutputOf_document (identifier stem : Text) :
    ¬ IsOutputOf identifier (stem ++ '.' :: FileSystem.documentExtension) := by
  rintro (h | h) <;> have hlast := congrArg List.getLast? h <;>
    simp [contractFile, recordFile, sourceExtension, FileSystem.documentExtension] at hlast

/-! ### Paths of files -/

/-- A name of more than two characters is neither the directory itself nor the one above. -/
lemma Path.endsIn_of_parts {path : Path} {above : List Text} {name : Text}
    (hparts : path.parts = above ++ [name]) (hlength : 2 < name.length) : path.EndsIn name :=
  ⟨⟨above, hparts⟩, by rintro rfl; simp at hlength, by rintro rfl; simp at hlength⟩

lemma slash_notMem_identifierOf (raw : Text) : '/' ∉ identifierOf raw := fun h =>
  absurd (isWordChar_of_mem_identifierOf h) (by decide)

lemma slash_notMem_contractFile (raw : Text) : '/' ∉ contractFile (identifierOf raw) := by
  rw [contractFile, List.mem_append, not_or]
  exact ⟨slash_notMem_identifierOf raw, by decide⟩

lemma slash_notMem_recordFile (raw : Text) : '/' ∉ recordFile (identifierOf raw) := by
  rw [recordFile, List.mem_append, not_or]
  exact ⟨slash_notMem_identifierOf raw, by decide⟩

lemma two_lt_length_contractFile (identifier : Text) : 2 < (contractFile identifier).length := by
  simp [contractFile, sourceExtension]

lemma two_lt_length_recordFile (identifier : Text) : 2 < (recordFile identifier).length := by
  simp [recordFile]

lemma endsIn_contractPath (dir : Path) (name : Text) :
    (contractPath dir name).EndsIn (contractFile (identifierOf name)) :=
  Path.endsIn_of_parts (Path.parts_join dir (by simp) (slash_notMem_contractFile name))
    (two_lt_length_contractFile _)

lemma endsIn_recordPath (dir : Path) (name : Text) :
    (recordPath dir name).EndsIn (recordFile (identifierOf name)) :=
  Path.endsIn_of_parts (Path.parts_join dir (by simp) (slash_notMem_recordFile name))
    (two_lt_length_recordFile _)

/-- The name of a template is not empty, and its file is directly in a directory. -/
lemma slash_notMem_templateFile {name : Text} (hname : isTemplateName name = true) :
    name ≠ [] ∧ '/' ∉ contractFile name := by
  simp only [isTemplateName, Bool.and_eq_true, Bool.not_eq_eq_eq_not, Bool.not_true,
    List.isEmpty_eq_false_iff, List.all_eq_true] at hname
  obtain ⟨⟨hne, hall⟩, -⟩ := hname
  refine ⟨hne, ?_⟩
  rw [contractFile, List.mem_append, not_or]
  exact ⟨fun h => absurd (hall _ h) (by decide), by decide⟩

lemma endsIn_templatePath (dir : Path) {name : Text} (hname : isTemplateName name = true) :
    (templatePath dir name).EndsIn (contractFile name) := by
  obtain ⟨-, hslash⟩ := slash_notMem_templateFile hname
  exact Path.endsIn_of_parts (Path.parts_join dir (by simp) hslash) (two_lt_length_contractFile _)

/-- The path of a document ends in a name with the extension of documents. -/
def IsDocument (file : Path) : Prop :=
  ∃ stem, file.EndsIn (stem ++ '.' :: FileSystem.documentExtension)

/-- A file below a directory whose name has the extension of documents is a document. -/
lemma isDocument_join (dir : Path) {name : Text}
    (hname : hasExtension FileSystem.documentExtension name = true) :
    IsDocument (dir.join name) := by
  obtain ⟨stem, hstem⟩ := exists_append_of_hasExtension hname
  obtain ⟨front, hfront⟩ := Path.suffix_join dir name
  obtain ⟨above, first, hparts⟩ := Path.exists_parts_append (front ++ stem)
    (show '.' :: FileSystem.documentExtension ≠ [] by simp) (by decide)
  rw [List.append_assoc, ← hstem, hfront] at hparts
  exact ⟨first, Path.endsIn_of_parts hparts (by simp [FileSystem.documentExtension])⟩

namespace Tree

variable {t t' : Tree}

/-- The documents directly in a directory. -/
def documentsIn (t : Tree) (dir : Path) : Except Fault (List Path) :=
  (t.perform (FileSystem.documentsIn dir)).1

/-- What is found in a directory is a file in it, with the extension of documents. -/
lemma exists_of_mem_documentsIn {dir : Path} {files : List Path}
    (hfiles : t.documentsIn dir = .ok files) {file : Path} (hfile : file ∈ files) :
    ∃ entries name, t.entries dir = .ok entries ∧ (name, .file) ∈ entries ∧
      hasExtension FileSystem.documentExtension name = true ∧ file = dir.join name := by
  have hkind : t.perform (FileSystem.kind dir) = (t.kind dir, t) := rfl
  have hentries : t.perform (FileSystem.entries dir) = (t.entries dir, t) := rfl
  rw [documentsIn, FileSystem.documentsIn, perform_bind, hkind] at hfiles
  rcases hfound : t.kind dir with fault | kind
  · simp [hfound] at hfiles
  rw [hfound] at hfiles
  cases kind
  case directory =>
    simp only [perform_bind, hentries] at hfiles
    rcases hlist : t.entries dir with fault | entries
    · simp [hlist] at hfiles
    · rw [hlist] at hfiles
      simp only [perform_pure, Except.ok.injEq] at hfiles
      subst hfiles
      obtain ⟨name, hname, rfl⟩ := List.mem_map.mp hfile
      rw [List.mem_mergeSort] at hname
      obtain ⟨⟨name, kind⟩, hentry, rfl⟩ := List.mem_map.mp hname
      obtain ⟨hentry, hchosen⟩ := List.mem_filter.mp hentry
      obtain ⟨hkind, hextension⟩ := Bool.and_eq_true_iff.mp hchosen
      obtain rfl : kind = .file := eq_of_beq hkind
      exact ⟨entries, name, rfl, hentry, hextension, rfl⟩
  all_goals
    simp only [perform_pure, Except.ok.injEq] at hfiles
    subst hfiles
    exact absurd hfile List.not_mem_nil

/-- What is found in a directory are documents. -/
lemma isDocument_of_documentsIn {dir : Path} {files : List Path}
    (hfiles : t.documentsIn dir = .ok files) {file : Path} (hfile : file ∈ files) :
    IsDocument file := by
  obtain ⟨-, name, -, -, hextension, rfl⟩ := exists_of_mem_documentsIn hfiles hfile
  exact isDocument_join dir hextension

lemma perform_atPath_readText (path : Path) :
    t.perform (atPath path (FileSystem.readText path)) =
      ((t.readText path).mapError (Failure.io path), t) := by
  rw [atPath, perform_adapt, asks_readText path t, readText]

/-- The specification of a document is that of the text in it. -/
lemma perform_ofFile (path : Path) : t.perform (Spec.ofFile path) =
    (((t.readText path).mapError (Failure.io path)).map Spec.ofText, t) := by
  rw [Spec.ofFile, perform_bind, perform_atPath_readText]
  cases t.readText path <;> rfl

end Tree

/-! ### Templates -/

namespace Tree

variable {t t' : Tree} {source : TemplateSource} {name : Text}

lemma asks_load (source : TemplateSource) (name : Text) :
    Asks (source.load name : ExceptT Failure (StateM Tree) Text) := by
  cases source with
  | shelf shelf => exact fun _ => rfl
  | directory dir =>
      rw [TemplateSource.load]
      split_ifs
      · refine ((asks_isKind .file _).adapt _).bind fun found => ?_
        cases found
        · exact asks_throw _
        · exact (asks_readText _).adapt _
      · exact asks_throw _

/-- The template under a name. -/
def template (t : Tree) (source : TemplateSource) (name : Text) : Except Failure Text :=
  (t.perform (source.load name)).1

/-- What is rendered from a template, the placeholders filled from the specification. -/
lemma perform_render (rules : RuleSet) (s : Spec) (name : Text) :
    t.perform (render source.load rules s name) =
      ((t.template source name).map (rendered rules s name), t) := by
  rw [render, perform_bind, (asks_load source name).perform_eq, template]
  cases (t.perform (source.load name)).1 <;> rfl

/-- A template of a directory is the text of its file. -/
lemma template_directory_eq_ok_iff {dir : Path} {text : Text} :
    t.template (.directory dir) name = .ok text ↔
      isTemplateName name = true ∧ t.readText (templatePath dir name) = .ok text := by
  rw [template, TemplateSource.load]
  obtain ⟨found, hfound, hiff⟩ := t.perform_isKind .file (templatePath dir name)
  split_ifs with hname
  · rw [perform_bind, atPath, perform_adapt, hfound]
    cases found with
    | true =>
        simp only [Except.mapError, if_true, perform_atPath_readText]
        cases t.readText (templatePath dir name) <;> simp [hname]
    | false =>
        simp only [Except.mapError, Bool.false_eq_true, if_false, perform_throw, hname, true_and]
        refine ⟨by simp, fun hread => ?_⟩
        obtain ⟨bytes, hbytes, -⟩ := readText_eq_ok_iff.mp hread
        exact absurd (hiff.mpr (kind_of_readBytes hbytes)) (by simp)
  · simp [hname, perform_throw]

/-- A template is still there, unless a contract was written in its place. -/
lemma template_mono {names : Text → Prop} (hfree : t.LinkFree) (hgrows : t.Grows names t')
    (hname : ¬ names (contractFile name)) {text : Text}
    (htext : t.template source name = .ok text) : t'.template source name = .ok text := by
  cases source with
  | shelf shelf => exact htext
  | directory dir =>
      obtain ⟨htemplate, hread⟩ := template_directory_eq_ok_iff.mp htext
      refine template_directory_eq_ok_iff.mpr ⟨htemplate, ?_⟩
      exact readText_mono hfree hgrows (endsIn_templatePath dir htemplate) hname hread

end Tree

/-! ### Writing contracts and records -/

section Writing

variable {t : Tree}

/-- A directory that a file may be written to: the working directory, or one that is
there. -/
def Tree.HasDirectory (t : Tree) (dir : Path) : Prop :=
  dir ≠ [] → t.kind dir = .ok .directory

lemma Tree.HasDirectory.mono {names : Text → Prop} {t' : Tree} {dir : Path}
    (h : t.HasDirectory dir) (hfree : t.LinkFree) (hgrows : t.Grows names t') :
    t'.HasDirectory dir := fun hne =>
  Tree.kind_mono hfree hgrows (h hne)

lemma yields_directories {names : Text → Prop} (hfree : t.LinkFree) (dir : Path) :
    t.Yields names (atPath dir (FileSystem.makeDirectories dir)) fun _ t' => t'.HasDirectory dir :=
  (Tree.yields_makeDirectories hfree dir).adapt _

lemma perform_directories (hfree : t.LinkFree) {dir : Path} (hdir : t.HasDirectory dir) :
    t.perform (atPath dir (FileSystem.makeDirectories dir)) = (.ok (), t) := by
  rw [atPath, Tree.perform_adapt, Tree.perform_makeDirectories_of_kind hfree hdir]
  rfl

/-- A contract that was written is in its file, in a directory that is there. -/
lemma yields_writeContract (hfree : t.LinkFree) (code name : Text) (dir : Path) :
    t.Yields (· = contractFile (identifierOf name)) (writeContract code name dir) fun path t' =>
      path = contractPath dir name ∧ t'.HasDirectory dir ∧
        t'.readBytes path = .ok (utf8 code) := by
  refine (yields_directories hfree dir).bind fun _ t₁ hgrows hdir => ?_
  have hwrite := (Tree.yields_writeText hgrows.linkFree (endsIn_contractPath dir name) code).adapt
    (Failure.io (contractPath dir name))
  exact hwrite.bind fun _ t₂ hgrows' hread =>
    .pure hgrows'.linkFree ⟨rfl, hdir.mono hgrows.linkFree hgrows', hread⟩

/-- A record that was written is in its file, in a directory that is there. -/
lemma yields_writeRecord (hfree : t.LinkFree) (s : Spec) {path : Path} {name : Text}
    (hend : path.EndsIn name) :
    t.Yields (· = name) (writeRecord s path) fun _ t' =>
      (∀ above ∈ path.parent?, t'.HasDirectory above) ∧
        t'.readBytes path = .ok (utf8 s.indented) := by
  have hwrite : ∀ {t₁ : Tree}, t₁.LinkFree →
      t₁.Yields (· = name) (atPath path (FileSystem.writeText path s.indented)) fun _ t' =>
        t'.readBytes path = .ok (utf8 s.indented) := fun hfree₁ =>
    (Tree.yields_writeText hfree₁ hend s.indented).adapt _
  rw [writeRecord]
  cases path.parent? with
  | none => exact (hwrite hfree).imp (fun _ => id) fun _ _ _ hread => ⟨by simp, hread⟩
  | some above =>
      refine (yields_directories hfree above).bind fun _ t₁ hgrows hdir => ?_
      refine (hwrite hgrows.linkFree).imp (fun _ => id) fun _ t₂ hgrows' hread => ⟨?_, hread⟩
      rintro _ ⟨⟩
      exact hdir.mono hgrows.linkFree hgrows'

/-- A contract is written again where one was written. -/
lemma perform_writeContract (hfree : t.LinkFree) (code name : Text) {dir : Path}
    (hdir : t.HasDirectory dir) {held : List UInt8}
    (hread : t.readBytes (contractPath dir name) = .ok held) :
    (t.perform (writeContract code name dir)).1 = .ok (contractPath dir name) := by
  have hwrite := Tree.perform_writeText_of_readBytes (endsIn_contractPath dir name) hread code
  rw [writeContract, Tree.perform_bind, perform_directories hfree hdir]
  simp only [Tree.perform_bind, atPath, Tree.perform_adapt, hwrite, Except.mapError,
    Tree.perform_pure]

/-- A record is written again where one was written. -/
lemma perform_writeRecord (hfree : t.LinkFree) (s : Spec) {path : Path} {name : Text}
    (hend : path.EndsIn name) (hdir : ∀ above ∈ path.parent?, t.HasDirectory above)
    {held : List UInt8} (hread : t.readBytes path = .ok held) :
    (t.perform (writeRecord s path)).1 = .ok () := by
  have hwrite := Tree.perform_writeText_of_readBytes hend hread s.indented
  rw [writeRecord]
  cases hparent : path.parent? with
  | none => simp only [atPath, Tree.perform_adapt, hwrite, Except.mapError]
  | some above =>
      simp only
      rw [Tree.perform_bind, perform_directories hfree (hdir above hparent)]
      simp only [atPath, Tree.perform_adapt, hwrite, Except.mapError]

end Writing

end ContractScaffold
