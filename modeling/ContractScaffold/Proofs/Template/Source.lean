/-
Template sources: the names that a source offers, and the templates that it has.

* `templateNameOf?_eq_some_iff`: the files that are taken for templates.
* `Tree.templateNames`, `Tree.LacksTemplate`: the names on offer, and the names under which no
  template is found.
* `Tree.OffersWhatLoads`: the names on offer are exactly those under which there is a template.
* `Tree.lacksTemplate_shelf_iff`, `Tree.lacksTemplate_directory_iff`: where templates are found.
* `Tree.mem_templateNames_iff`: what a directory offers: the names of its entries with the
  extension of templates, whatever the entries are.
* `Tree.offersWhatLoads_iff`: shelves offer what they have; so do directories all of whose
  names on offer are well-formed and lead to regular files.
-/
import ContractScaffold.Proofs.Output
import ContractScaffold.Proofs.Tree.Directory

namespace ContractScaffold

open Text

/-! ### Names of template files -/

/-- The file of a template tells its name. -/
lemma templateNameOf?_eq_some_iff {file name : Text} :
    templateNameOf? file = some name ↔ name ≠ [] ∧ file = contractFile name := by
  have hne : sourceExtension ≠ [] := by decide
  have hdot : '.' ∉ sourceExtension := by decide
  rw [templateNameOf?]
  constructor
  · intro h
    split_ifs at h with hextension
    obtain ⟨stem, rfl⟩ := exists_append_of_hasExtension hextension
    have hstem : stem ≠ [] := by rintro rfl; exact absurd hextension (by decide)
    rw [stemAndExtension_append hstem hne hdot] at h
    obtain rfl := Option.some.inj h
    exact ⟨hstem, rfl⟩
  · rintro ⟨hstem, rfl⟩
    simp [contractFile, hasExtension, stemAndExtension_append hstem hne hdot]

namespace Tree

variable {t : Tree} {name : Text}

/-! ### Templates that are found -/

/-- The names of the templates on offer. -/
def templateNames (t : Tree) (source : TemplateSource) : Except Failure (List Text) :=
  (t.perform source.names).1

/-- No template is found under the name. -/
def LacksTemplate (t : Tree) (source : TemplateSource) (name : Text) : Prop :=
  ∃ missing, t.template source name = .error (.templateNotFound missing)

/-- The names on offer are exactly those under which there is a template, or a refusal of the
file system to read it. -/
def OffersWhatLoads (t : Tree) (source : TemplateSource) : Prop :=
  ∀ names, t.templateNames source = .ok names →
    ∀ name, name ∈ names ↔ ¬ t.LacksTemplate source name

lemma templateNames_shelf (shelf : Shelf) : t.templateNames (.shelf shelf) = .ok shelf.names :=
  rfl

/-- A shelf lacks the templates whose names it does not have. -/
lemma lacksTemplate_shelf_iff {shelf : Shelf} :
    t.LacksTemplate (.shelf shelf) name ↔ name ∉ shelf.names := by
  have htemplate : t.template (.shelf shelf) name = shelf.load name := rfl
  have hnames : name ∈ shelf.names ↔ (shelf.lookup name).isSome := by
    rw [Shelf.names, List.mem_map, List.lookup_isSome_iff]
    exact exists_congr fun template => and_congr_right fun _ => by rw [beq_iff_eq, eq_comm]
  rw [LacksTemplate, htemplate, hnames, Shelf.load]
  cases shelf.lookup name <;> simp

/-- A directory has the templates of well-formed names whose files are regular files, or links
to such. -/
lemma lacksTemplate_directory_iff {dir : Path} : t.LacksTemplate (.directory dir) name ↔
    ¬ (isTemplateName name = true ∧ t.kind (templatePath dir name) = .ok .file) := by
  obtain ⟨found, hfound, hiff⟩ := t.perform_isKind .file (templatePath dir name)
  rw [LacksTemplate, template, TemplateSource.load]
  split_ifs with hname
  · rw [perform_bind, atPath, perform_adapt, hfound]
    cases found with
    | true =>
        simp only [Except.mapError, if_true, perform_atPath_readText, hiff.mp rfl, hname]
        cases t.readText (templatePath dir name) <;> simp
    | false =>
        have hkind : t.kind (templatePath dir name) ≠ .ok .file := fun h => by
          simpa using hiff.mpr h
        simp [Except.mapError, perform_throw, hkind]
  · simp [hname, perform_throw]

/-! ### Names on offer -/

lemma templateNames_directory_eq_ok_iff {dir : Path} {names : List Text} :
    t.templateNames (.directory dir) = .ok names ↔ ∃ entries, t.entries dir = .ok entries ∧
      names = (entries.filterMap fun e => templateNameOf? e.1).mergeSort inOrder := by
  have hentries : t.perform (FileSystem.entries dir) = (t.entries dir, t) := rfl
  rw [templateNames, TemplateSource.names, perform_bind, atPath, perform_adapt, hentries]
  cases t.entries dir with
  | error fault => simp [Except.mapError]
  | ok entries => simp [Except.mapError, perform_pure, eq_comm]

/-- The file of a template is not the directory above. -/
lemma concat_contractFile_ne_outside (place : Place) : place ++ [contractFile name] ≠ outside := by
  intro h
  have hfile := congrArg List.getLast? h
  rw [List.getLast?_concat] at hfile
  have hlast := congrArg List.getLast? (Option.some.inj hfile)
  simp [contractFile, sourceExtension] at hlast

/-- **The names that a directory offers** are those of its entries with the extension of
templates, whatever the entries are. -/
lemma mem_templateNames_iff {dir : Path} {names : List Text}
    (hnames : t.templateNames (.directory dir) = .ok names) {place : Place}
    (hdir : t.resolve dir = .ok place) :
    name ∈ names ↔ name ≠ [] ∧ t.entry? (place ++ [contractFile name]) ≠ none := by
  obtain ⟨entries, hentries, rfl⟩ := templateNames_directory_eq_ok_iff.mp hnames
  rw [List.mem_mergeSort, List.mem_filterMap,
    ← exists_mem_entries_iff hentries hdir (concat_contractFile_ne_outside place)]
  simp only [templateNameOf?_eq_some_iff]
  constructor
  · rintro ⟨⟨file, kind⟩, hmem, hne, hfile⟩
    obtain rfl : file = contractFile name := hfile
    exact ⟨hne, kind, hmem⟩
  · rintro ⟨hne, kind, hmem⟩
    exact ⟨_, hmem, hne, rfl⟩

/-- A directory offers every template that it has. -/
lemma mem_templateNames_of_kind {dir : Path} {names : List Text}
    (hnames : t.templateNames (.directory dir) = .ok names) (hname : isTemplateName name = true)
    (hkind : t.kind (templatePath dir name) = .ok .file) : name ∈ names := by
  obtain ⟨entries, hentries, -⟩ := templateNames_directory_eq_ok_iff.mp hnames
  obtain ⟨place, hdir, hplace, -⟩ := entries_eq_ok_iff.mp hentries
  have hend := endsIn_templatePath dir hname
  obtain ⟨hne, hslash⟩ := slash_notMem_templateFile hname
  obtain ⟨content, hread⟩ := kind_eq_file_iff.mp hkind
  obtain ⟨-, found, hpath, hfound⟩ := readBytes_eq_ok_iff.mp hread
  refine (mem_templateNames_iff hnames hdir).mpr ⟨hne, ?_⟩
  exact entry?_of_resolve_join hdir hplace (by simp [contractFile]) hslash hend.ne_dot hend.ne_up
    hpath (by simp [hfound])

/-! ### Names that are listed and templates that are found -/

/-- **Names on offer and templates.** Every shelf offers exactly the templates that it has. A
directory offers every template that it has; and it offers no others exactly where all its
names on offer are well-formed and lead to regular files. -/
theorem offersWhatLoads_iff (t : Tree) :
    (∀ shelf, t.templateNames (.shelf shelf) = .ok shelf.names ∧ t.OffersWhatLoads (.shelf shelf))
      ∧ ∀ dir names, t.templateNames (.directory dir) = .ok names →
        (∀ name, ¬ t.LacksTemplate (.directory dir) name → name ∈ names)
          ∧ (t.OffersWhatLoads (.directory dir) ↔ ∀ name ∈ names,
            isTemplateName name = true ∧ t.kind (templatePath dir name) = .ok .file) := by
  refine ⟨fun shelf => ⟨templateNames_shelf shelf, fun names hnames name => ?_⟩,
    fun dir names hnames => ?_⟩
  · obtain rfl := Except.ok.inj ((templateNames_shelf shelf).symm.trans hnames)
    rw [lacksTemplate_shelf_iff, not_not]
  · have hoffered : ∀ name, ¬ t.LacksTemplate (.directory dir) name → name ∈ names := by
      intro name h
      rw [lacksTemplate_directory_iff, not_not] at h
      exact mem_templateNames_of_kind hnames h.1 h.2
    refine ⟨hoffered, fun hoffers name hname => ?_, fun hall names' hnames' name => ?_⟩
    · have hfound := (hoffers names hnames name).mp hname
      rwa [lacksTemplate_directory_iff, not_not] at hfound
    · obtain rfl := Except.ok.inj (hnames.symm.trans hnames')
      refine ⟨fun hname => ?_, hoffered name⟩
      rw [lacksTemplate_directory_iff, not_not]
      exact hall name hname

/-- A directory of templates with a template, a link to it, a directory that is named like a
template, and a file whose name has a space in it. -/
def mixedTree : Tree := [
  (["t"], .directory),
  (["t", "A.sol"], .file []),
  (["t", "L.sol"], .link "A.sol"),
  (["t", "d.sol"], .directory),
  (["t", "my token.sol"], .file [])]

lemma templateNames_mixedTree : mixedTree.templateNames (.directory "t") =
    .ok ((["A", "L", "d", "my token"] : List Text).mergeSort inOrder) := rfl

/-- A link to a template is a template that is offered. -/
theorem offersWhatLoads_iff_mixedTree : ∃ names,
    mixedTree.templateNames (.directory "t") = .ok names ∧
      ¬ mixedTree.LacksTemplate (.directory "t") "L" ∧ ("L" : Text) ∈ names := by
  have hfound : ¬ mixedTree.LacksTemplate (.directory "t") "L" := by
    rw [lacksTemplate_directory_iff, not_not]
    exact ⟨by decide, rfl⟩
  have hnames := templateNames_mixedTree
  exact ⟨_, hnames, hfound, ((offersWhatLoads_iff mixedTree).2 _ _ hnames).1 _ hfound⟩

/-- The directory among the templates is offered, and no template is found under its name. -/
theorem not_offersWhatLoads_mixedTree : ¬ mixedTree.OffersWhatLoads (.directory "t") := by
  intro hoffers
  have hname : ("d" : Text) ∈ (["A", "L", "d", "my token"] : List Text).mergeSort inOrder := by
    simp
  exact (hoffers _ templateNames_mixedTree "d").mp hname ⟨"d", rfl⟩

end Tree

end ContractScaffold
