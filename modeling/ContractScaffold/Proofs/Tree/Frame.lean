/-
What programs may do to a tree. Writing files, and making the directories that they are to lie
in, deletes nothing and changes nothing else.

* `Path.IsPlain`, `Path.place`: relative paths that never lead up, and the place that such a path
  leads to where there are no links (`IsPlain.eq_place_of_resolve`).
* `Tree.Change`, `Tree.ConfinedTo`: what may have become of an entry, and of a tree, when only
  certain files were written.
* `Tree.KeepsFiles`, `Tree.WroteOnly`: trees with the same files, or all but one.
* `Tree.Keeps`: programs that lead from a tree to one that it is related to, one step after the
  other (`Keeps.bind`).
* `keeps_makeDirectories`, `confines_makeDirectories`, `confines_writeText`: directories and
  files.
* `confines_writeContract`, `confines_writeRecord`: a contract and a record write to one file
  each.
* `perform_writeContract_cases`, `perform_writeRecord_cases`: on any tree, they write their file
  or change none.
-/
import ContractScaffold.Proofs.Tree.Removal

namespace ContractScaffold

open Text

/-! ### Plain paths -/

namespace Path

/-- A relative path that never leads up. -/
structure IsPlain (path : Path) : Prop where
  relative : path.head? ≠ some '/'
  down : ['.', '.'] ∉ path.parts

instance : DecidablePred IsPlain := fun path =>
  decidable_of_iff (path.head? ≠ some '/' ∧ ['.', '.'] ∉ path.parts)
    ⟨fun ⟨hhead, hdown⟩ => ⟨hhead, hdown⟩, fun h => ⟨h.relative, h.down⟩⟩

/-- The place that the names of a plain path lead to: dots lead nowhere. -/
def place (path : Path) : Place :=
  path.parts.filter fun name => name ≠ ['.']

/-- Names that do not lead up are those of the places they lead to. -/
lemma foldl_step_of_down {names : List Text} (hdown : ['.', '.'] ∉ names) (start : Place) :
    names.foldl Tree.step start = start ++ names.filter fun name => name ≠ ['.'] := by
  induction names generalizing start with
  | nil => simp
  | cons name names ih =>
      rw [List.mem_cons, not_or] at hdown
      obtain ⟨hup, hdown⟩ := hdown
      rw [List.foldl_cons, ih hdown]
      by_cases hdot : name = ['.']
      · simp [hdot, Tree.step_dot]
      · simp [hdot, Tree.step_name start hdot (Ne.symm hup)]

namespace IsPlain

variable {path : Path}

lemma startOf_eq (hplain : path.IsPlain) : Tree.startOf [] path = [] :=
  if_neg hplain.relative

/-- A plain path leads through the places above its own, and to it. -/
lemma isPrefix_of_leadsThrough (hplain : path.IsPlain) {place : Place}
    (h : path.LeadsThrough place) : place <+: path.place := by
  obtain ⟨names, hnames, rfl⟩ := h
  have hdown : ['.', '.'] ∉ names := fun hup => hplain.down (hnames.subset hup)
  rw [hplain.startOf_eq, foldl_step_of_down hdown, List.nil_append]
  exact hnames.filter _

/-- Without links, a plain path leads to its place. -/
lemma eq_place_of_resolve (hplain : path.IsPlain) {t : Tree} (hfree : t.LinkFree) {place : Place}
    (hpath : t.resolve path = .ok place) : place = path.place := by
  rw [Tree.resolve] at hpath
  split_ifs at hpath
  have hplace := Tree.foldl_step_of_walk hfree hpath
  rwa [hplain.startOf_eq, foldl_step_of_down hplain.down, List.nil_append, eq_comm] at hplace

/-- A name below a plain path makes a plain path. -/
lemma join (hplain : path.IsPlain) {name : Text} (hname : 2 < name.length)
    (hslash : '/' ∉ name) : (Path.join path name).IsPlain where
  relative := by
    have hhead : name.head? ≠ some '/' := fun h => hslash (List.mem_of_mem_head? h)
    rcases eq_or_ne path [] with rfl | hne
    · simp [Path.join, hhead]
    · rw [head?_join hne hhead]
      exact hplain.relative
  down := by
    rw [parts_join path (by rintro rfl; simp at hname) hslash, List.mem_append, not_or]
    refine ⟨hplain.down, fun hup => ?_⟩
    rw [← List.mem_singleton.mp hup] at hname
    simp at hname

/-- The directory that a plain path lies in has a plain path. -/
lemma of_parent? (hplain : path.IsPlain) {above : Path} (h : path.parent? = some above) :
    above.IsPlain := by
  obtain ⟨hparts, hstart⟩ := Path.of_parent? h
  refine ⟨fun hroot => ?_, fun hup => hplain.down (hparts.subset hup)⟩
  rw [hplain.startOf_eq, Tree.startOf, if_pos hroot] at hstart
  cases hstart

end IsPlain

lemma place_join (dir : Path) {name : Text} (hname : 2 < name.length) (hslash : '/' ∉ name) :
    (dir.join name).place = dir.place ++ [name] := by
  have hdot : name ≠ ['.'] := by rintro rfl; simp at hname
  rw [place, place, parts_join dir (by rintro rfl; simp at hname) hslash, List.filter_append]
  simp [hdot]

/-- The pieces of a path that lead somewhere make up its place. -/
lemma place_eq_filter (path : Path) :
    path.place = (path.splitOn '/').filter fun name => !isIdle name := by
  rw [place, parts, List.filter_filter]
  refine List.filter_congr fun name _ => ?_
  by_cases hdot : name = ['.'] <;> simp [isIdle, hdot]

lemma filter_dropIdle (names : List Text) :
    ((dropIdle names).filter fun name => !isIdle name) =
      names.filter fun name => !isIdle name := by
  have hidle : (names.reverse.takeWhile isIdle).filter (fun name => !isIdle name) = [] :=
    List.filter_eq_nil_iff.mpr fun name hname => by simp [List.mem_takeWhile_imp hname]
  rw [dropIdle, List.filter_reverse, List.reverse_eq_iff, ← List.filter_reverse]
  conv_rhs => rw [← List.takeWhile_append_dropWhile (p := isIdle) (l := names.reverse)]
  rw [List.filter_append, hidle, List.nil_append]

/-- What is left after the idle pieces at the end ends in a name. -/
lemma dropIdle_concat {names front : List Text} {name : Text}
    (h : dropIdle names = front ++ [name]) : isIdle name = false := by
  have hhead := List.head?_dropWhile_not isIdle names.reverse
  have hreversed : names.reverse.dropWhile isIdle = name :: front.reverse := by
    rw [dropIdle] at h
    simpa using congrArg List.reverse h
  rw [hreversed] at hhead
  simpa using hhead

/-- The directory that a path lies in is right above it, or it is the working directory. -/
lemma place_of_parent? {path above : Path} (h : path.parent? = some above) :
    above.place = [] ∨ ∃ name, path.place = above.place ++ [name] := by
  obtain ⟨first, rest, hsplit⟩ := List.exists_cons_of_ne_nil (List.splitOn_ne_nil '/' path)
  have hslash : ∀ piece ∈ first :: rest, '/' ∉ piece := fun piece hpiece hc => by
    rw [← hsplit] at hpiece
    simpa using (mem_splitOnP hpiece hc).2
  rw [parent?, hsplit] at h
  simp only at h
  rcases hrest : dropIdle rest with _ | ⟨next, names⟩
  · rw [hrest] at h
    simp only at h
    split_ifs at h
    obtain rfl := Option.some.inj h
    exact .inl rfl
  · rw [hrest] at h
    simp only at h
    -- the last piece that leads somewhere is the name, and those before it make up the directory
    obtain ⟨front, name, hlast⟩ := (List.eq_nil_or_concat' (next :: names)).resolve_left (by simp)
    rw [hlast, List.dropLast_concat] at h
    have hname : isIdle name = false := dropIdle_concat (hrest.trans hlast)
    have hplace : path.place =
        ((first :: dropIdle front).filter fun name => !isIdle name) ++ [name] := by
      have hfilter := filter_dropIdle rest
      rw [hrest, hlast, List.filter_append, ← filter_dropIdle front] at hfilter
      rw [place_eq_filter, hsplit, List.filter_cons, List.filter_cons, ← hfilter]
      split_ifs <;> simp [hname]
    refine .inr ⟨name, hplace.trans (congrArg (· ++ [name]) ?_)⟩
    have hfront : ∀ piece ∈ first :: dropIdle front, '/' ∉ piece := fun piece hpiece => by
      have hbefore : dropIdle front <+: rest :=
        ((dropIdle_isPrefix front).trans (List.prefix_append front [name])).trans
          (hlast ▸ hrest ▸ dropIdle_isPrefix rest)
      exact hslash piece ((List.cons_subset_cons first hbefore.subset) hpiece)
    rcases hdir : dropIdle front with _ | ⟨piece, pieces⟩
    · rw [hdir] at h
      obtain rfl := Option.some.inj h
      rw [place_eq_filter]
      split_ifs with hfirst
      · rw [List.isEmpty_iff.mp hfirst]
        rfl
      · rw [List.splitOn_eq_singleton (hslash first (by simp))]
    · rw [hdir] at h hfront
      obtain rfl := Option.some.inj h
      rw [place_eq_filter, joinWith, List.splitOn_intercalate '/' hfront (by simp)]

end Path

/-! ### Trees of which only some files were written -/

namespace Tree

variable {t t' t'' : Tree} {written : Place → Prop} {place : Place}

/-- Some beginning of a place with the property, but not the whole of it. -/
def LiesAbove (written : Place → Prop) (place : Place) : Prop :=
  ∃ target, written target ∧ place <+: target ∧ place ≠ target

/-- What may have become of the entry at a place when files were written at certain places: it
is kept, or a file was created or replaced there, or a directory was made that one of the files
is to lie in. -/
inductive Change (written : Place → Prop) (place : Place) : Option Entry → Option Entry → Prop
  | kept (entry : Option Entry) : Change written place entry entry
  | created (h : written place) (content : List UInt8) :
      Change written place none (some (.file content))
  | replaced (h : written place) (before after : List UInt8) :
      Change written place (some (.file before)) (some (.file after))
  | made (h : LiesAbove written place) : Change written place none (some .directory)

/-- One change after the other is a change. -/
lemma Change.trans {before between after : Option Entry} (h : Change written place before between)
    (h' : Change written place between after) : Change written place before after := by
  cases h with
  | kept => exact h'
  | created hplace content =>
      cases h' with
      | kept => exact .created hplace content
      | replaced _ _ after => exact .created hplace after
  | replaced hplace before content =>
      cases h' with
      | kept => exact .replaced hplace before content
      | replaced _ _ after => exact .replaced hplace before after
  | made hplace =>
      cases h' with
      | kept => exact .made hplace

/-- Nothing is deleted, and files, directories and links stay what they are. -/
lemma Change.exists_entry {before after : Option Entry} (h : Change written place before after)
    {entry : Entry} (hentry : before = some entry) :
    ∃ entry', after = some entry' ∧ entry'.kind = entry.kind := by
  cases h with
  | kept => exact ⟨entry, hentry, rfl⟩
  | created => cases hentry
  | replaced _ before content =>
      obtain rfl := Option.some.inj hentry
      exact ⟨.file content, rfl, rfl⟩
  | made => cases hentry

/-- In the second tree, no more than the files at certain places was written. -/
def ConfinedTo (written : Place → Prop) (t t' : Tree) : Prop :=
  ∀ place, Change written place (t.entry? place) (t'.entry? place)

lemma ConfinedTo.refl (written : Place → Prop) (t : Tree) : t.ConfinedTo written t :=
  fun _ => .kept _

lemma ConfinedTo.trans (h : t.ConfinedTo written t') (h' : t'.ConfinedTo written t'') :
    t.ConfinedTo written t'' := fun place =>
  (h place).trans (h' place)

/-- What stands at another place is as it was. -/
lemma ConfinedTo.entry?_eq (h : t.ConfinedTo written t') (hplace : ¬ written place) {entry : Entry}
    (hentry : t.entry? place = some entry) : t'.entry? place = some entry := by
  have hchange := h place
  rw [hentry] at hchange
  generalize t'.entry? place = after at hchange ⊢
  cases hchange with
  | kept => rfl
  | replaced hwritten => exact absurd hwritten hplace

lemma ConfinedTo.put_directory (hplace : t.entry? place = none)
    (habove : LiesAbove written place) : t.ConfinedTo written (t.put place .directory) := by
  intro other
  rcases eq_or_ne other place with rfl | hne
  · rw [hplace, entry?_put_self (by simp [hplace])]
    exact .made habove
  · rw [entry?_put_of_ne hne]
    exact .kept _

lemma ConfinedTo.put_file (hfree : t.LinkFree) (hplace : t.entry? place ≠ some .directory)
    (hwritten : written place) (content : List UInt8) :
    t.ConfinedTo written (t.put place (.file content)) := by
  intro other
  rcases eq_or_ne other place with rfl | hne
  · rw [entry?_put_self hplace]
    rcases hentry : t.entry? other with _ | held | _ | target
    · exact .created hwritten content
    · exact .replaced hwritten held content
    · exact absurd hentry hplace
    · exact absurd hentry (hfree.ne_link _ _)
  · rw [entry?_put_of_ne hne]
    exact .kept _

/-- Both trees have the same files, with the same contents. -/
def KeepsFiles (t t' : Tree) : Prop :=
  ∀ place content, t'.entry? place = some (.file content) ↔ t.entry? place = some (.file content)

lemma KeepsFiles.put_directory (hplace : t.entry? place = none) :
    t.KeepsFiles (t.put place .directory) := by
  intro other content
  rcases eq_or_ne other place with rfl | hne
  · rw [hplace, entry?_put_self (by simp [hplace])]
    simp
  · rw [entry?_put_of_ne hne]

/-- One file was written, to which the path led when all directories were made, and no other
file has changed. -/
def WroteOnly (path : Path) (content : List UInt8) (t t' : Tree) : Prop :=
  ∃ t₁ place, t.KeepsFiles t₁ ∧ t₁.resolve path = .ok place ∧
    t₁.entry? place ≠ some .directory ∧ t₁.put place (.file content) = t'

/-! ### Programs one step after the other -/

/-- From every tree, the program leads to one that the tree is related to. -/
def Keeps {ε α : Type} (R : Tree → Tree → Prop) (program : ExceptT ε (StateM Tree) α) : Prop :=
  ∀ t : Tree, R t (t.perform program).2

/-- No more than the files at certain places is written to a tree without links. -/
def Confines (written : Place → Prop) (t t' : Tree) : Prop :=
  t.LinkFree → t'.LinkFree ∧ t.ConfinedTo written t'

instance (written : Place → Prop) : Std.Refl (Confines written) where
  refl t hfree := ⟨hfree, .refl written t⟩

instance (written : Place → Prop) : IsTrans Tree (Confines written) where
  trans _ _ _ h h' hfree :=
    have ⟨hfree', hconfined⟩ := h hfree
    have ⟨hfree'', hconfined'⟩ := h' hfree'
    ⟨hfree'', hconfined.trans hconfined'⟩

instance : Std.Refl KeepsFiles where
  refl _ _ _ := Iff.rfl

instance : IsTrans Tree KeepsFiles where
  trans _ _ _ h h' place content := (h' place content).trans (h place content)

section Keeps

variable {ε α β : Type} {R : Tree → Tree → Prop}

lemma Keeps.bind [IsTrans Tree R] {program : ExceptT ε (StateM Tree) α} (h : Keeps R program)
    {next : α → ExceptT ε (StateM Tree) β} (hnext : ∀ a, Keeps R (next a)) :
    Keeps R (program >>= next) := fun t => by
  have hfirst := h t
  rw [perform_bind]
  generalize t.perform program = ran at hfirst ⊢
  obtain ⟨e | a, t'⟩ := ran
  · exact hfirst
  · exact trans_of R hfirst (hnext a t')

lemma Keeps.adapt {ε' : Type} {program : ExceptT ε (StateM Tree) α} (h : Keeps R program)
    (f : ε → ε') : Keeps R (program.adapt f) :=
  h

lemma Keeps.outcome {program : ExceptT Fault (StateM Tree) α} (h : Keeps R program) :
    Keeps R (FileSystem.outcome program) :=
  h

variable [Std.Refl R]

lemma Keeps.of_asks {program : ExceptT ε (StateM Tree) α} (h : Asks program) :
    Keeps R program := fun t => by
  rw [h t]
  exact refl_of R t

/-- A directory that stands in the way is asked for, and nothing is made. -/
lemma keeps_unlessKind (path : Path) (fault : Fault) :
    Keeps R (do
      if ← FileSystem.isKind .directory path then return () else throw fault :
        ExceptT Fault (StateM Tree) Unit) := by
  refine .of_asks ((asks_isKind .directory path).bind fun found => ?_)
  cases found
  · exact asks_throw fault
  · exact asks_pure ()

variable [IsTrans Tree R]

/-- Directories are made one at a time. -/
lemma keeps_makeChain {chain : List Path}
    (h : ∀ path ∈ chain, Keeps R (FileSystem.makeDirectory path)) :
    Keeps R (FileSystem.makeChain chain : ExceptT Fault (StateM Tree) Unit) := by
  induction chain with
  | nil => exact .of_asks (asks_pure ())
  | cons path above ih =>
      obtain ⟨hpath, habove⟩ := List.forall_mem_cons.mp h
      have hensure : Keeps R (FileSystem.ensureDirectory path) := by
        refine hpath.outcome.bind fun r => ?_
        rcases r with fault | ⟨⟩
        · exact keeps_unlessKind path fault
        · exact .of_asks (asks_pure ())
      refine hpath.outcome.bind fun r => ?_
      rcases r with fault | ⟨⟩
      · cases fault
        case notFound => exact (ih habove).bind fun _ => hensure
        all_goals exact keeps_unlessKind path _
      · exact .of_asks (asks_pure ())

/-- **The directories of a path**: what the making of one of them keeps, that of all keeps. -/
lemma keeps_makeDirectories {path : Path}
    (h : ∀ above ∈ path.ancestors, Keeps R (FileSystem.makeDirectory above)) :
    Keeps R (FileSystem.makeDirectories path : ExceptT Fault (StateM Tree) Unit) :=
  keeps_makeChain h

end Keeps

/-! ### Directories and files -/

/-- Making directories changes no file, links or not. -/
lemma keepsFiles_makeDirectories (path : Path) :
    Keeps KeepsFiles (FileSystem.makeDirectories path : ExceptT Fault (StateM Tree) Unit) := by
  refine keeps_makeDirectories fun above _ t => ?_
  rw [perform_makeDirectory]
  rcases hmake : t.makeDirectory above with fault | t'
  · exact refl_of KeepsFiles t
  · obtain ⟨place, hplace, rfl, -⟩ := exists_of_makeDirectory hmake
    exact .put_directory hplace

/-- Directories are made above the files that are written, if the path leads through no other
places. -/
lemma confines_makeDirectories {path : Path}
    (habove : ∀ place, place ≠ [] → path.LeadsThrough place → LiesAbove written place) :
    Keeps (Confines written)
      (FileSystem.makeDirectories path : ExceptT Fault (StateM Tree) Unit) := by
  refine keeps_makeDirectories fun above hmem t hfree => ?_
  rw [perform_makeDirectory]
  rcases hmake : t.makeDirectory above with fault | t'
  · exact ⟨hfree, .refl written t⟩
  · obtain ⟨place, hplace, rfl, hpath⟩ := exists_of_makeDirectory hmake
    have hne : place ≠ [] := by
      rintro rfl
      simp at hplace
    have hthrough := Path.LeadsThrough.of_mem_ancestors hmem
      (leadsThrough_of_resolve hfree (hpath hfree))
    exact ⟨hfree.put (by simp [Entry.kind]),
      .put_directory hplace (habove place hne hthrough)⟩

lemma confines_writeText {path : Path} (hplain : path.IsPlain) (hwritten : written path.place)
    (text : Text) :
    Keeps (Confines written)
      (FileSystem.writeText path text : ExceptT Fault (StateM Tree) Unit) := by
  intro t hfree
  rw [perform_writeText]
  rcases hwrite : t.writeBytes path (utf8 text) with fault | t'
  · exact ⟨hfree, .refl written t⟩
  · obtain ⟨-, place, hpath, hplace, rfl⟩ := writeBytes_eq_ok_iff.mp hwrite
    obtain rfl := hplain.eq_place_of_resolve hfree hpath
    exact ⟨hfree.put (by simp [Entry.kind]), .put_file hfree hplace hwritten _⟩

/-- A file is written after a program that changes none: either this fails and no file has
changed, or the file was written. -/
lemma perform_bind_writeText {before : ExceptT Failure (StateM Tree) Unit}
    (hbefore : Keeps KeepsFiles before) (t : Tree) (path : Path) (text : Text) :
    let ran := t.perform (before >>= fun _ => atPath path (FileSystem.writeText path text))
    ((∃ failure, ran.1 = .error failure) ∧ t.KeepsFiles ran.2) ∨
      (ran.1 = .ok () ∧ t.WroteOnly path (utf8 text) ran.2) := by
  have hkeeps := hbefore t
  simp only
  rw [perform_bind]
  generalize t.perform before = ran at hkeeps ⊢
  obtain ⟨failure | ⟨⟩, t₁⟩ := ran
  · exact .inl ⟨⟨failure, rfl⟩, hkeeps⟩
  simp only
  rw [atPath, perform_adapt, perform_writeText]
  rcases hwrite : t₁.writeBytes path (utf8 text) with fault | t₂
  · exact .inl ⟨⟨.io path fault, rfl⟩, hkeeps⟩
  · obtain ⟨-, place, hpath, hplace, rfl⟩ := writeBytes_eq_ok_iff.mp hwrite
    exact .inr ⟨rfl, t₁, place, hkeeps, hpath, hplace, rfl⟩

end Tree

/-! ### Contracts and records -/

section Writing

variable {written : Place → Prop}

/-- A place that a directory leads through lies above the files in the directory. -/
lemma Path.IsPlain.liesAbove {dir : Path} (hdir : dir.IsPlain) {name : Text}
    (hwritten : written (dir.place ++ [name])) {place : Place} (hplace : dir.LeadsThrough place) :
    Tree.LiesAbove written place := by
  have hprefix : place <+: dir.place := hdir.isPrefix_of_leadsThrough hplace
  refine ⟨_, hwritten, hprefix.trans (List.prefix_append _ _), fun heq => ?_⟩
  have hlength := hprefix.length_le
  rw [heq, List.length_append, List.length_singleton] at hlength
  omega

/-- Writing a contract writes its file in the directory. -/
lemma confines_writeContract {dir : Path} (hdir : dir.IsPlain) {name : Text}
    (hwritten : written (dir.place ++ [contractFile (identifierOf name)])) (code : Text) :
    Tree.Keeps (Tree.Confines written)
      (writeContract code name dir : ExceptT Failure (StateM Tree) Path) := by
  have hlong := two_lt_length_contractFile (identifierOf name)
  have hslash := slash_notMem_contractFile name
  have hplace : (contractPath dir name).place = dir.place ++ [contractFile (identifierOf name)] :=
    Path.place_join dir hlong hslash
  have hmake : Tree.Keeps (Tree.Confines written)
      (FileSystem.makeDirectories dir : ExceptT Fault (StateM Tree) Unit) :=
    Tree.confines_makeDirectories fun _ _ hthrough => hdir.liesAbove hwritten hthrough
  have hwrite := Tree.confines_writeText (hdir.join hlong hslash) (hplace ▸ hwritten) code
  exact (hmake.adapt _).bind fun _ => (hwrite.adapt _).bind fun _ =>
    .of_asks (Tree.asks_pure _)

/-- The directories that a record is to lie in, made as programs go. -/
def recordDirectories {m : Type → Type} [Monad m] [FileSystem m] (path : Path) :
    ExceptT Failure m Unit :=
  match path.parent? with
  | some above => atPath above (FileSystem.makeDirectories above)
  | none => pure ()

lemma writeRecord_eq (s : Spec) (path : Path) :
    (writeRecord s path : ExceptT Failure (StateM Tree) Unit) =
      recordDirectories path >>= fun _ => atPath path (FileSystem.writeText path s.indented) := by
  rw [writeRecord, recordDirectories]
  cases path.parent? <;> rfl

lemma keepsFiles_recordDirectories (path : Path) :
    Tree.Keeps Tree.KeepsFiles (recordDirectories path : ExceptT Failure (StateM Tree) Unit) := by
  rw [recordDirectories]
  cases path.parent? with
  | none => exact .of_asks (Tree.asks_pure ())
  | some above => exact (Tree.keepsFiles_makeDirectories above).adapt _

lemma confines_recordDirectories {path : Path} (hplain : path.IsPlain)
    (hwritten : written path.place) :
    Tree.Keeps (Tree.Confines written)
      (recordDirectories path : ExceptT Failure (StateM Tree) Unit) := by
  rw [recordDirectories]
  rcases hparent : path.parent? with _ | above
  · exact .of_asks (Tree.asks_pure ())
  have habove : above.IsPlain := hplain.of_parent? hparent
  refine (Tree.confines_makeDirectories fun place hne hthrough => ?_).adapt _
  rcases Path.place_of_parent? hparent with hroot | ⟨name, hname⟩
  · have hprefix := habove.isPrefix_of_leadsThrough hthrough
    rw [hroot, List.prefix_nil] at hprefix
    exact absurd hprefix hne
  · exact habove.liesAbove (hname ▸ hwritten) hthrough

/-- Writing a record writes its file. -/
lemma confines_writeRecord {path : Path} (hplain : path.IsPlain) (hwritten : written path.place)
    (s : Spec) :
    Tree.Keeps (Tree.Confines written)
      (writeRecord s path : ExceptT Failure (StateM Tree) Unit) := by
  rw [writeRecord_eq]
  exact (confines_recordDirectories hplain hwritten).bind fun _ =>
    (Tree.confines_writeText hplain hwritten s.indented).adapt _

/-- **Writing a contract** changes no file if it fails, and one file if it succeeds: the one that
is named by the identifier in the directory. -/
lemma perform_writeContract_cases (t : Tree) (code name : Text) (dir : Path) :
    let ran := t.perform (writeContract code name dir)
    ((∃ failure, ran.1 = .error failure) ∧ t.KeepsFiles ran.2) ∨
      (ran.1 = .ok (contractPath dir name) ∧
        t.WroteOnly (contractPath dir name) (utf8 code) ran.2) := by
  have hwrite := Tree.perform_bind_writeText
    ((Tree.keepsFiles_makeDirectories dir).adapt (Failure.io dir)) t (contractPath dir name) code
  have hrun : (writeContract code name dir : ExceptT Failure (StateM Tree) Path) =
      ((FileSystem.makeDirectories dir).adapt (Failure.io dir) >>= fun _ =>
        atPath (contractPath dir name) (FileSystem.writeText (contractPath dir name) code)) >>=
          fun _ => pure (contractPath dir name) := (bind_assoc _ _ _).symm
  simp only at hwrite ⊢
  rw [hrun, Tree.perform_bind]
  generalize t.perform ((FileSystem.makeDirectories dir).adapt (Failure.io dir) >>= fun _ =>
    atPath (contractPath dir name) (FileSystem.writeText (contractPath dir name) code)) = ran
    at hwrite ⊢
  obtain ⟨failure | ⟨⟩, t'⟩ := ran
  · rcases hwrite with ⟨-, hkeeps⟩ | ⟨h, -⟩
    · exact .inl ⟨⟨failure, rfl⟩, hkeeps⟩
    · cases h
  · rcases hwrite with ⟨⟨_, h⟩, -⟩ | ⟨-, hwrote⟩
    · cases h
    · exact .inr ⟨rfl, hwrote⟩

/-- **Writing a record** changes no file if it fails, and one file if it succeeds. -/
lemma perform_writeRecord_cases (t : Tree) (s : Spec) (path : Path) :
    let ran := t.perform (writeRecord s path)
    ((∃ failure, ran.1 = .error failure) ∧ t.KeepsFiles ran.2) ∨
      (ran.1 = .ok () ∧ t.WroteOnly path (utf8 s.indented) ran.2) := by
  rw [writeRecord_eq]
  exact Tree.perform_bind_writeText (keepsFiles_recordDirectories path) t path s.indented

end Writing

end ContractScaffold
