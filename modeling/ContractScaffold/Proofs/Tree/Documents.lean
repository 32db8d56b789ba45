/-
The documents in a directory of a tree: which files are found, and in which order.

* `ListsInOrder`: lists of names with a property, each once and in order; there is one such
  list for a property (`unique`).
* `Tree.WellFormed`: trees as a file system without links holds them.
* `Tree.HoldsDocument`: the documents directly in a directory.
* `Tree.resolve_join`: a name in a directory leads to its place there.
* `Tree.WellFormed.documentsIn_directory`: the documents in a directory are found, each once
  and in the order of their names.
* `Tree.exists_perform_ofDirectory`: their specifications are read where all of them are texts.
-/
import ContractScaffold.Proofs.Output
import ContractScaffold.Proofs.Tree.Directory

namespace ContractScaffold

open Text

/-! ### Names in order -/

/-- The list holds the names with the property, each once, in order. -/
structure ListsInOrder (p : Text → Prop) (names : List Text) : Prop where
  sorted : names.Pairwise fun a b => inOrder a b = true
  nodup : names.Nodup
  mem_iff : ∀ name, name ∈ names ↔ p name

lemma inOrder_iff {a b : Text} : inOrder a b = true ↔ a ≤ b := by
  simp [inOrder]

/-- Sorting puts names in order. -/
lemma listsInOrder_mergeSort {p : Text → Prop} (names : List Text) (hnodup : names.Nodup)
    (hmem : ∀ name, name ∈ names ↔ p name) : ListsInOrder p (names.mergeSort inOrder) where
  sorted := List.pairwise_mergeSort
    (fun a b c hab hbc => by rw [inOrder_iff] at *; exact hab.trans hbc)
    (fun a b => by
      rw [Bool.or_eq_true, inOrder_iff, inOrder_iff]
      exact le_total a b) names
  nodup := (List.mergeSort_perm names inOrder).nodup_iff.mpr hnodup
  mem_iff name := by rw [List.mem_mergeSort, hmem]

namespace ListsInOrder

variable {p : Text → Prop} {names : List Text}

lemma congr (h : ListsInOrder p names) {q : Text → Prop} (hpq : ∀ name, p name ↔ q name) :
    ListsInOrder q names :=
  ⟨h.sorted, h.nodup, fun name => (h.mem_iff name).trans (hpq name)⟩

/-- There is one list for a property. -/
lemma unique (h : ListsInOrder p names) {other : List Text} (hother : ListsInOrder p other) :
    names = other := by
  have hperm : names.Perm other := (List.perm_ext_iff_of_nodup h.nodup hother.nodup).mpr
    fun name => (h.mem_iff name).trans (hother.mem_iff name).symm
  refine hperm.eq_of_pairwise (fun a b _ _ hab hba => ?_) h.sorted hother.sorted
  exact le_antisymm (inOrder_iff.mp hab) (inOrder_iff.mp hba)

/-- The list for the property of being a certain name. -/
lemma singleton (name : Text) : ListsInOrder (· = name) [name] :=
  ⟨List.pairwise_singleton _ _, List.nodup_singleton _, by simp⟩

/-- The list without one of its names. -/
lemma without {before after : List Text} {name : Text}
    (h : ListsInOrder p (before ++ name :: after)) :
    ListsInOrder (fun other => p other ∧ other ≠ name) (before ++ after) where
  sorted := h.sorted.sublist (by simp)
  nodup := h.nodup.sublist (by simp)
  mem_iff other := by
    have hnodup := h.nodup
    rw [List.nodup_middle, List.nodup_cons] at hnodup
    rw [← h.mem_iff, List.mem_append, List.mem_append, List.mem_cons]
    constructor
    · intro hmem
      refine ⟨hmem.imp_right .inr, ?_⟩
      rintro rfl
      exact hnodup.1 (List.mem_append.mpr hmem)
    · rintro ⟨hmem | rfl | hmem, hne⟩
      · exact .inl hmem
      · exact absurd rfl hne
      · exact .inr hmem

end ListsInOrder

namespace Tree

variable {t : Tree} {place : Place}

/-! ### Well-formed trees -/

/-- A name that an entry of a directory can have. -/
structure IsEntryName (name : Text) : Prop where
  ne_nil : name ≠ []
  ne_dot : name ≠ ['.']
  ne_up : name ≠ ['.', '.']
  slash : '/' ∉ name
  nul : '\x00' ∉ name
  short : (utf8 name).length ≤ nameLimit

instance : DecidablePred IsEntryName := fun name =>
  decidable_of_iff (name ≠ [] ∧ name ≠ ['.'] ∧ name ≠ ['.', '.'] ∧ '/' ∉ name ∧ '\x00' ∉ name ∧
      (utf8 name).length ≤ nameLimit)
    ⟨fun ⟨hnil, hdot, hup, hslash, hnul, hshort⟩ => ⟨hnil, hdot, hup, hslash, hnul, hshort⟩,
      fun h => ⟨h.ne_nil, h.ne_dot, h.ne_up, h.slash, h.nul, h.short⟩⟩

/-- A tree as a file system without links holds it: one entry at a place, under a name that
entries can have. -/
structure WellFormed (t : Tree) : Prop where
  linkFree : t.LinkFree
  nodup : (t.map Prod.fst).Nodup
  names : ∀ item ∈ t, ∀ name ∈ item.1.getLast?, IsEntryName name

lemma lookup_of_mem (hnodup : (t.map Prod.fst).Nodup) {entry : Entry} (h : (place, entry) ∈ t) :
    t.lookup place = some entry := by
  induction t with
  | nil => cases h
  | cons item t ih =>
      rw [List.map_cons, List.nodup_cons] at hnodup
      rcases List.mem_cons.mp h with rfl | h
      · simp
      · have hne : place ≠ item.1 := by
          rintro rfl
          exact hnodup.1 (List.mem_map.mpr ⟨_, h, rfl⟩)
        rw [List.lookup_cons, beq_false_of_ne hne]
        exact ih hnodup.2 h

/-! ### Documents -/

/-- A document directly in the directory at a place: a regular file whose name has the
extension of documents. -/
def HoldsDocument (t : Tree) (place : Place) (name : Text) : Prop :=
  hasExtension FileSystem.documentExtension name = true ∧
    ∃ content, t.entry? (place ++ [name]) = some (.file content)

/-- A name that is a document's is longer than two characters. -/
lemma two_lt_length_of_hasExtension {name : Text}
    (hname : hasExtension FileSystem.documentExtension name = true) : 2 < name.length := by
  obtain ⟨stem, rfl⟩ := exists_append_of_hasExtension hname
  simp [FileSystem.documentExtension]

lemma concat_ne_outside (place : Place) {name : Text} (hname : 2 < name.length) :
    place ++ [name] ≠ [] ∧ place ++ [name] ≠ outside := by
  refine ⟨by simp, fun h => ?_⟩
  have hlast := congrArg List.getLast? h
  rw [List.getLast?_concat] at hlast
  obtain rfl : name = ['.', '.'] := Option.some.inj hlast
  simp at hname

lemma HoldsDocument.mem (h : t.HoldsDocument place name) :
    ∃ content, (place ++ [name], .file content) ∈ t := by
  obtain ⟨hname, content, hentry⟩ := h
  rw [entry?_eq_lookup (concat_ne_outside place (two_lt_length_of_hasExtension hname))] at hentry
  obtain ⟨before, after, rfl, -⟩ := List.lookup_eq_some_iff.mp hentry
  exact ⟨content, by simp⟩

/-- The documents in a directory are the listed files with the extension of documents. -/
lemma WellFormed.holdsDocument_iff (ht : t.WellFormed) {name : Text} :
    t.HoldsDocument place name ↔
      (name, .file) ∈ t.listing place ∧
        hasExtension FileSystem.documentExtension name = true := by
  rw [mem_listing]
  constructor
  · intro h
    obtain ⟨content, hitem⟩ := h.mem
    exact ⟨⟨_, hitem, rfl⟩, h.1⟩
  · rintro ⟨⟨entry, hitem, hkind⟩, hname⟩
    have hplace := concat_ne_outside place (two_lt_length_of_hasExtension hname)
    cases entry with
    | file content =>
        refine ⟨hname, content, ?_⟩
        rw [entry?_eq_lookup hplace, lookup_of_mem ht.nodup hitem]
    | directory => cases hkind
    | link target => cases hkind

/-- A name in a directory leads to its place there. -/
lemma resolve_join (hfree : t.LinkFree) {dir : Path} (hdir : t.resolve dir = .ok place)
    (hplace : t.entry? place = some .directory) {name : Text} (hname : IsEntryName name) :
    t.resolve (dir.join name) = .ok (place ++ [name]) := by
  obtain ⟨followed, hjoin⟩ := exists_resolve_join hdir hplace hname.ne_nil hname.slash
  rw [hjoin, if_neg hname.nul]
  exact (walk_concat_eq_ok_iff hfree [] hname.ne_dot hname.ne_up).mpr
    ⟨place, rfl, hname.short, rfl⟩

/-- Names that lead on to a directory lead to it. -/
lemma walk_of_walk_dot {followed : Place → Path → List Text → Except Fault Place}
    (hfree : t.LinkFree) {start : Place} {names : List Text}
    (hwalk : walk t followed start (names ++ [['.']]) = .ok place) :
    walk t followed start names = .ok place := by
  induction names generalizing start with
  | nil => simpa [walk] using hwalk
  | cons name names ih =>
      rcases (walk_cons_eq_ok_iff hfree).mp hwalk with ⟨hon, hwalk⟩ | ⟨-, hnil, -⟩
      · exact (walk_cons_eq_ok_iff hfree).mpr (.inl ⟨hon, ih hwalk⟩)
      · simp at hnil

/-- What a name below a directory leads to lies in the directory. -/
lemma exists_of_resolve_join (hfree : t.LinkFree) {dir : Path} {name : Text}
    (hname : 2 < name.length) (hslash : '/' ∉ name)
    (hpath : t.resolve (dir.join name) = .ok place) :
    ∃ above, (dir = [] ∧ above = [] ∨ t.resolve dir = .ok above) ∧ place = above ++ [name] := by
  have hhead : name.head? ≠ some '/' := fun h => hslash (List.mem_of_mem_head? h)
  have hparts := Path.parts_join dir (show name ≠ [] by rintro rfl; simp at hname) hslash
  rw [resolve] at hpath
  split_ifs at hpath with hnil hnul
  rw [hparts, startOf_join dir hhead] at hpath
  obtain ⟨above, habove, -, rfl⟩ := (walk_concat_eq_ok_iff hfree _
    (by rintro rfl; simp at hname) (by rintro rfl; simp at hname)).mp hpath
  refine ⟨above, ?_, rfl⟩
  rcases eq_or_ne dir [] with rfl | hdir
  · exact .inl ⟨rfl, (Except.ok.inj habove).symm⟩
  · have hclean : '\x00' ∉ dir := fun h =>
      hnul (List.elem_iff.mpr ((Path.prefix_join dir hhead).subset h))
    rw [resolve, if_neg hdir, if_neg (by simpa using hclean)]
    exact .inr (walk_of_walk_dot hfree habove)

/-- A document is found at its place. -/
lemma WellFormed.resolve_document (ht : t.WellFormed) {dir : Path}
    (hdir : t.resolve dir = .ok place) (hplace : t.entry? place = some .directory) {name : Text}
    (hname : t.HoldsDocument place name) : t.resolve (dir.join name) = .ok (place ++ [name]) := by
  obtain ⟨content, hitem⟩ := hname.mem
  exact resolve_join ht.linkFree hdir hplace (ht.names _ hitem name (by simp))

/-- **The documents in a directory are found**, each once and in the order of their names. -/
lemma WellFormed.documentsIn_directory (ht : t.WellFormed) {dir : Path}
    (hdir : t.resolve dir = .ok place) (hplace : t.entry? place = some .directory) :
    ∃ names, ListsInOrder (t.HoldsDocument place) names ∧
      t.documentsIn dir = .ok (names.map fun name => dir.join name) := by
  have hkind : t.perform (FileSystem.kind dir) = (.ok .directory, t) :=
    congrArg (·, t) (kind_eq_directory_iff.mpr ⟨place, hdir, hplace⟩)
  have hentries : t.perform (FileSystem.entries dir) = (.ok (t.listing place), t) :=
    congrArg (·, t) (entries_eq_ok_iff.mpr ⟨place, hdir, hplace, rfl⟩)
  refine ⟨_, listsInOrder_mergeSort (((t.listing place).filter fun e => e.2 == .file &&
    hasExtension FileSystem.documentExtension e.1).map Prod.fst) ?_ fun name => ?_, ?_⟩
  · refine List.Nodup.of_map (fun name => place ++ [name]) (List.Nodup.sublist ?_ ht.nodup)
    rw [List.map_map]
    exact (List.filter_sublist.map _).trans (t.listing_sublist place)
  · rw [ht.holdsDocument_iff]
    simp
  · rw [documentsIn, FileSystem.documentsIn, perform_bind, hkind]
    simp only
    rw [perform_bind, hentries]
    rfl

/-- The specifications of documents that are texts are read, in the order of the documents. -/
lemma exists_perform_ofFiles {files : List Path}
    (hread : ∀ file ∈ files, ∃ text, t.readText file = .ok text) :
    ∃ specs, t.perform (Spec.ofFiles files) = (.ok specs, t) ∧ specs.map Prod.fst = files := by
  induction files with
  | nil => exact ⟨[], rfl, rfl⟩
  | cons file files ih =>
      obtain ⟨text, htext⟩ := hread file List.mem_cons_self
      obtain ⟨specs, hspecs, hpaths⟩ := ih fun other hother =>
        hread other (List.mem_cons_of_mem file hother)
      refine ⟨(file, Spec.ofText text) :: specs, ?_, by rw [List.map_cons, hpaths]⟩
      rw [Spec.ofFiles, perform_bind, perform_ofFile, htext]
      simp only [Except.mapError, Except.map]
      rw [perform_bind, hspecs]
      rfl

/-- A directory whose documents are texts gives their specifications, in the order of the
documents. -/
lemma exists_perform_ofDirectory {dir : Path} {files : List Path}
    (hfiles : t.documentsIn dir = .ok files)
    (hread : ∀ file ∈ files, ∃ text, t.readText file = .ok text) :
    ∃ specs, (t.perform (Spec.ofDirectory dir)).1 = .ok specs ∧ specs.map Prod.fst = files := by
  obtain ⟨specs, hspecs, hpaths⟩ := exists_perform_ofFiles hread
  refine ⟨specs, ?_, hpaths⟩
  have hfound : (t.perform ((FileSystem.documentsIn dir).adapt (Failure.scan dir))).1 = .ok files :=
    perform_adapt_of_ok hfiles _
  rw [Spec.ofDirectory, perform_bind_of_ok hfound, perform_adapt, asks_documentsIn dir t, hspecs]

end Tree

end ContractScaffold
