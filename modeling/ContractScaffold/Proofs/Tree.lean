/-
Trees that change. A tree without links that only ever gets new entries, and new content
for some of its files, leads along every path that it led along before.

* `Tree.LinkFree`: trees without links; in them every path is walked name by name
  (`walk_cons_eq_ok_iff`, `walk_append_eq_ok_iff`).
* `Tree.Grows`: what writing files and making directories does to a tree, with the names
  of the files that may get new content.
* `walk_mono`, `resolve_mono`, `kind_mono`, `readBytes_mono`: what a grown tree keeps.
* `find_eq_ok_iff`, `kind_eq_ok_iff`, `readBytes_eq_ok_iff`, `writeBytes_eq_ok_iff`: what paths
  find, and when a file is read and written.
* `exists_of_makeDirectory`: where a directory is made.
* `writeBytes_spec`, `makeDirectory_spec`: what one step adds.
* `makeDirectory_of_kind`, `exists_writeBytes`: a directory is not made twice, and a file is
  written again.
-/
import Mathlib
import ContractScaffold.Proofs.Path
import ContractScaffold.Tree

namespace ContractScaffold

open Text

namespace Tree

variable {t t' : Tree}

/-! ### Entries of a tree -/

/-- The root is a directory. -/
@[simp] lemma entry?_nil (t : Tree) : t.entry? [] = some .directory := if_pos (.inl rfl)

/-- Elsewhere there is what the tree lists. -/
lemma entry?_eq_lookup {place : Place} (hplace : place ≠ [] ∧ place ≠ outside) :
    t.entry? place = t.lookup place :=
  if_neg (not_or.mpr hplace)

/-- A tree without links. -/
def LinkFree (t : Tree) : Prop :=
  ∀ item ∈ t, item.2.kind ≠ .link

instance : DecidablePred LinkFree := fun t =>
  inferInstanceAs (Decidable (∀ item ∈ t, item.2.kind ≠ .link))

lemma LinkFree.ne_link (hfree : t.LinkFree) (place : Place) (target : Path) :
    t.entry? place ≠ some (.link target) := by
  intro h
  unfold entry? at h
  split_ifs at h
  · cases h
  · obtain ⟨before, after, rfl, -⟩ := List.lookup_eq_some_iff.mp h
    exact hfree (place, .link target) (by simp) rfl

lemma mem_put {place : Place} {entry : Entry} {item : Place × Entry}
    (h : item ∈ t.put place entry) : item ∈ t ∨ item = (place, entry) := by
  induction t with
  | nil => exact .inr (List.mem_singleton.mp h)
  | cons first t ih =>
      rw [put] at h
      split_ifs at h
      · rcases List.mem_cons.mp h with rfl | h
        · exact .inr rfl
        · exact .inl (List.mem_cons_of_mem _ h)
      · rcases List.mem_cons.mp h with rfl | h
        · exact .inl List.mem_cons_self
        · exact (ih h).imp_left (List.mem_cons_of_mem _)

lemma LinkFree.put (hfree : t.LinkFree) {place : Place} {entry : Entry}
    (hentry : entry.kind ≠ .link) : (t.put place entry).LinkFree := fun item hitem => by
  rcases mem_put hitem with h | rfl
  · exact hfree item h
  · exact hentry

lemma lookup_put (place : Place) (entry : Entry) (other : Place) :
    (t.put place entry).lookup other = if other = place then some entry else t.lookup other := by
  induction t with
  | nil =>
      by_cases h : other = place
      · simp [Tree.put, h]
      · simp [Tree.put, List.lookup, h, beq_false_of_ne h]
  | cons first t ih =>
      obtain ⟨front, held⟩ := first
      rw [Tree.put]
      by_cases hplace : front = place
      · subst hplace
        by_cases h : other = front
        · simp [h]
        · simp [List.lookup, h, beq_false_of_ne h]
      · by_cases hfront : other = front
        · subst hfront
          simp [List.lookup, hplace]
        · simp [List.lookup, hplace, beq_false_of_ne hfront, ih]

/-- The entry that was put at a place stands there. A directory is not replaced, so that
the place is not one of the two that always hold one. -/
lemma entry?_put_self {place : Place} (hplace : t.entry? place ≠ some .directory) (entry : Entry) :
    Tree.entry? (t.put place entry) place = some entry := by
  have hroot : ¬ (place = [] ∨ place = outside) := fun h => hplace (if_pos h)
  rw [entry?_eq_lookup (not_or.mp hroot), lookup_put, if_pos rfl]

/-- The other entries stay. -/
lemma entry?_put_of_ne {place other : Place} (hne : other ≠ place) (entry : Entry) :
    Tree.entry? (t.put place entry) other = t.entry? other := by
  unfold entry?
  rw [lookup_put, if_neg hne]

/-! ### Walking -/

/-- The place that a name leads to from a directory, as far as the name tells. -/
def step (here : Place) (name : Text) : Place :=
  if name = ['.'] then here
  else if name = ['.', '.'] then placeAbove here
  else here ++ [name]

lemma step_dot (here : Place) : step here ['.'] = here := if_pos rfl

lemma step_up (here : Place) : step here ['.', '.'] = placeAbove here := by
  rw [step, if_neg (by decide), if_pos rfl]

lemma step_name (here : Place) {name : Text} (hdot : name ≠ ['.']) (hup : name ≠ ['.', '.']) :
    step here name = here ++ [name] := by
  rw [step, if_neg hdot, if_neg hup]

/-- A path below a directory starts where the directory does. -/
lemma startOf_join (dir : Path) {path : Path} (hpath : path.head? ≠ some '/') :
    startOf [] (dir.join path) = startOf [] dir := by
  rcases eq_or_ne dir [] with rfl | hdir
  · rw [Path.join, if_neg hpath, if_pos (.inl rfl), List.nil_append, startOf, if_neg hpath]
    rfl
  · rw [startOf, startOf, Path.head?_join hdir hpath]

/-- A name that leads on from a directory: one of the dots, or that of a directory in it. -/
def LeadsOn (t : Tree) (here : Place) (name : Text) : Prop :=
  name = ['.'] ∨ name = ['.', '.'] ∨
    (utf8 name).length ≤ nameLimit ∧ t.entry? (here ++ [name]) = some .directory

/-- A name that a walk can end with: that of anything but a directory, or of nothing. -/
@[mk_iff]
structure StopsAt (t : Tree) (here : Place) (name : Text) : Prop where
  ne_dot : name ≠ ['.']
  ne_up : name ≠ ['.', '.']
  short : (utf8 name).length ≤ nameLimit
  entry : t.entry? (here ++ [name]) ≠ some .directory

/-- In another tree, a walk can go on there. -/
lemma StopsAt.leadsOn_or_stopsAt {here : Place} {name : Text} (h : t.StopsAt here name)
    (t' : Tree) : t'.LeadsOn here name ∨ t'.StopsAt here name := by
  by_cases hentry : t'.entry? (here ++ [name]) = some .directory
  · exact .inl (.inr (.inr ⟨h.short, hentry⟩))
  · exact .inr ⟨h.ne_dot, h.ne_up, h.short, hentry⟩

section Walk

variable {followed : Place → Path → List Text → Except Fault Place}

/-- **One step of a walk**: it goes on from where the name leads, or it ends there. -/
lemma walk_cons_eq_ok_iff (hfree : t.LinkFree) {here place : Place} {name : Text}
    {names : List Text} : walk t followed here (name :: names) = .ok place ↔
      t.LeadsOn here name ∧ walk t followed (step here name) names = .ok place ∨
        t.StopsAt here name ∧ names = [] ∧ step here name = place := by
  by_cases hdot : name = ['.']
  · simp [walk, LeadsOn, stopsAt_iff, hdot, step_dot]
  by_cases hup : name = ['.', '.']
  · simp [walk, LeadsOn, stopsAt_iff, hup, step_up]
  rw [walk, if_neg hdot, if_neg hup, step_name here hdot hup]
  by_cases hlong : nameLimit < (utf8 name).length
  · simp [LeadsOn, stopsAt_iff, hdot, hup, hlong]
  have hshort := not_lt.mp hlong
  have hend : ∀ fault : Fault,
      (if names = [] then .ok (here ++ [name]) else .error fault) = Except.ok place ↔
        names = [] ∧ here ++ [name] = place := by
    intro fault
    split_ifs with hnil <;> simp [hnil]
  rw [if_neg hlong]
  rcases hentry : t.entry? (here ++ [name]) with _ | _ | _ | target
  · simp [LeadsOn, stopsAt_iff, hdot, hup, hshort, hentry, hend]
  · simp [LeadsOn, stopsAt_iff, hdot, hup, hshort, hentry, hend]
  · simp [LeadsOn, stopsAt_iff, hdot, hup, hshort, hentry]
  · exact absurd hentry (hfree.ne_link _ _)

/-- Names are walked one after the other, through directories: the first of them as if
they ended in the directory itself. -/
lemma walk_append_eq_ok_iff (hfree : t.LinkFree) {start place : Place} {names rest : List Text}
    (hrest : rest ≠ []) : walk t followed start (names ++ rest) = .ok place ↔
      ∃ above, walk t followed start (names ++ [['.']]) = .ok above ∧
        walk t followed above rest = .ok place := by
  induction names generalizing start with
  | nil => simp [walk]
  | cons name names ih => simp [walk_cons_eq_ok_iff hfree, ih, hrest, and_assoc]

/-- A name leads to its place in the directory that the names before it lead to. -/
lemma walk_concat_eq_ok_iff (hfree : t.LinkFree) {start place : Place} (names : List Text)
    {name : Text} (hdot : name ≠ ['.']) (hup : name ≠ ['.', '.']) :
    walk t followed start (names ++ [name]) = .ok place ↔
      ∃ above, walk t followed start (names ++ [['.']]) = .ok above ∧
        (utf8 name).length ≤ nameLimit ∧ place = above ++ [name] := by
  rw [walk_append_eq_ok_iff hfree (by simp)]
  refine exists_congr fun above => and_congr_right fun _ => ?_
  rw [walk_cons_eq_ok_iff hfree, step_name above hdot hup]
  by_cases hentry : t.entry? (above ++ [name]) = some .directory
  · simp [walk, LeadsOn, stopsAt_iff, hdot, hup, hentry, eq_comm]
  · simp [LeadsOn, stopsAt_iff, hdot, hup, hentry, eq_comm]

end Walk

/-! ### Growing -/

/-- The second tree grew from the first: directories stay, and so do files, of which only
those with certain names may have new content. -/
structure Grows (names : Text → Prop) (t t' : Tree) : Prop where
  linkFree : t'.LinkFree
  directory : ∀ {place}, t.entry? place = some .directory → t'.entry? place = some .directory
  file : ∀ {place content}, t.entry? place = some (.file content) → ∃ content',
    t'.entry? place = some (.file content') ∧
      ((∀ name ∈ place.getLast?, ¬ names name) → content' = content)

namespace Grows

variable {names names' : Text → Prop} {t'' : Tree}

lemma refl (hfree : t.LinkFree) : t.Grows names t :=
  ⟨hfree, id, fun {_ content} h => ⟨content, h, fun _ => rfl⟩⟩

lemma trans (h : t.Grows names t') (h' : t'.Grows names t'') : t.Grows names t'' where
  linkFree := h'.linkFree
  directory hplace := h'.directory (h.directory hplace)
  file hplace := by
    obtain ⟨content', hplace', hsame⟩ := h.file hplace
    obtain ⟨content'', hplace'', hsame'⟩ := h'.file hplace'
    exact ⟨content'', hplace'', fun hname => (hsame' hname).trans (hsame hname)⟩

lemma mono (h : t.Grows names t') (hnames : ∀ name, names name → names' name) :
    t.Grows names' t' where
  linkFree := h.linkFree
  directory := h.directory
  file hplace := by
    obtain ⟨content', hplace', hsame⟩ := h.file hplace
    exact ⟨content', hplace', fun hname => hsame fun name hlast hin =>
      hname name hlast (hnames name hin)⟩

/-- A directory is made where nothing stands. -/
lemma put_directory (hfree : t.LinkFree) {place : Place} (hplace : t.entry? place = none) :
    t.Grows names (t.put place .directory) where
  linkFree := hfree.put (by simp [Entry.kind])
  directory {other} hother := by
    rwa [entry?_put_of_ne (by rintro rfl; simp [hplace] at hother)]
  file {other content} hother :=
    ⟨content, by rwa [entry?_put_of_ne (by rintro rfl; simp [hplace] at hother)], fun _ => rfl⟩

/-- A file is written where no directory stands. -/
lemma put_file (hfree : t.LinkFree) {place : Place} (hplace : t.entry? place ≠ some .directory)
    (content : List UInt8) (hname : ∀ name ∈ place.getLast?, names name) :
    t.Grows names (t.put place (.file content)) where
  linkFree := hfree.put (by simp [Entry.kind])
  directory {other} hother := by
    rwa [entry?_put_of_ne (by rintro rfl; exact hplace hother)]
  file {other held} hother := by
    by_cases heq : other = place
    · subst heq
      obtain ⟨name, hlast⟩ : ∃ name, other.getLast? = some name := by
        cases hlast : other.getLast? with
        | none => exact absurd (if_pos (.inl (List.getLast?_eq_none_iff.mp hlast))) hplace
        | some name => exact ⟨name, rfl⟩
      exact ⟨content, entry?_put_self hplace _, fun hnot =>
        absurd (hname name hlast) (hnot name hlast)⟩
    · exact ⟨held, by rwa [entry?_put_of_ne heq], fun _ => rfl⟩

end Grows

lemma LeadsOn.mono {names : Text → Prop} {here : Place} {name : Text} (h : t.LeadsOn here name)
    (hgrows : t.Grows names t') : t'.LeadsOn here name :=
  h.imp_right (Or.imp_right (And.imp_right hgrows.directory))

section Grown

variable {names : Text → Prop}

/-- Names still lead to where they led. -/
lemma walk_mono {followed followed' : Place → Path → List Text → Except Fault Place}
    (hfree : t.LinkFree) (hgrows : t.Grows names t') {place start : Place} {path : List Text}
    (hwalk : walk t followed start path = .ok place) :
    walk t' followed' start path = .ok place := by
  induction path generalizing start with
  | nil => exact hwalk
  | cons name path ih =>
      rw [walk_cons_eq_ok_iff hgrows.linkFree]
      rcases (walk_cons_eq_ok_iff hfree).mp hwalk with ⟨hon, hwalk⟩ | ⟨hstop, rfl, rfl⟩
      · exact .inl ⟨hon.mono hgrows, ih hwalk⟩
      · -- the last name leads to its place, whatever stands there by now
        rcases hstop.leadsOn_or_stopsAt t' with hon | hstop
        · exact .inl ⟨hon, rfl⟩
        · exact .inr ⟨hstop, rfl, rfl⟩

/-- A path still leads to where it led. -/
lemma resolve_mono (hfree : t.LinkFree) (hgrows : t.Grows names t') {path : Path} {place : Place}
    (hpath : t.resolve path = .ok place) : t'.resolve path = .ok place := by
  rw [resolve] at hpath ⊢
  split_ifs at hpath ⊢
  exact walk_mono hfree hgrows hpath

/-- The last name of a path is that of the place it leads to. -/
lemma getLast?_of_resolve (hfree : t.LinkFree) {path : Path} {place : Place} {name : Text}
    (hend : path.EndsIn name) (hpath : t.resolve path = .ok place) :
    place.getLast? = some name := by
  obtain ⟨above, hparts⟩ := hend.parts
  rw [resolve] at hpath
  split_ifs at hpath
  rw [hparts] at hpath
  obtain ⟨above, -, -, rfl⟩ :=
    (walk_concat_eq_ok_iff hfree _ hend.ne_dot hend.ne_up).mp hpath
  exact List.getLast?_concat

/-! ### Files -/

/-- A path finds the entry at the place that it leads to; what ends in a separator is no path
to a file. -/
lemma find_eq_ok_iff {path : Path} {place : Place} {entry : Entry} :
    t.find path = .ok (place, entry) ↔ t.resolve path = .ok place ∧
      t.entry? place = some entry ∧ (entry.kind = .file → path.getLast? ≠ some '/') := by
  rw [find]
  rcases hpath : t.resolve path with fault | there
  · simp [bind, Except.bind]
  simp only [bind, Except.bind, Except.ok.injEq]
  constructor
  · intro h
    rcases hentry : t.entry? there with _ | _ | _ | _
    · simp [hentry] at h
    · simp only [hentry] at h
      split_ifs at h with hlast
      obtain ⟨rfl, rfl⟩ := Prod.mk.inj (Except.ok.inj h)
      exact ⟨rfl, hentry, fun _ => hlast⟩
    all_goals
      simp only [hentry] at h
      obtain ⟨rfl, rfl⟩ := Prod.mk.inj (Except.ok.inj h)
      exact ⟨rfl, hentry, by simp [Entry.kind]⟩
  · rintro ⟨rfl, hentry, hlast⟩
    cases entry with
    | file content => simp only [hentry, if_neg (hlast rfl)]
    | directory => simp only [hentry]
    | link target => simp only [hentry]

lemma kind_eq_ok_iff {path : Path} {kind : Kind} : t.kind path = .ok kind ↔
    ∃ place entry, t.find path = .ok (place, entry) ∧ entry.kind = kind := by
  rw [Tree.kind]
  rcases t.find path with fault | ⟨place, entry⟩ <;>
    simp [bind, Except.bind, pure, Except.pure]

lemma readBytes_eq_ok_iff {path : Path} {content : List UInt8} :
    t.readBytes path = .ok content ↔ path.getLast? ≠ some '/' ∧
      ∃ place, t.resolve path = .ok place ∧ t.entry? place = some (.file content) := by
  have hfind : t.readBytes path = .ok content ↔
      ∃ place, t.find path = .ok (place, .file content) := by
    rw [readBytes]
    rcases t.find path with fault | ⟨place, held | _ | target⟩ <;> simp [bind, Except.bind]
  simp only [hfind, find_eq_ok_iff, Entry.kind, forall_const, ← and_assoc, exists_and_right]
  exact and_comm

/-- What leads to a file has a content. -/
lemma kind_of_readBytes {path : Path} {content : List UInt8}
    (hread : t.readBytes path = .ok content) : t.kind path = .ok .file := by
  obtain ⟨hlast, place, hpath, hplace⟩ := readBytes_eq_ok_iff.mp hread
  exact kind_eq_ok_iff.mpr ⟨place, _, find_eq_ok_iff.mpr ⟨hpath, hplace, fun _ => hlast⟩, rfl⟩

/-- A file is still there. -/
lemma exists_readBytes (hfree : t.LinkFree) (hgrows : t.Grows names t') {path : Path}
    {content : List UInt8} (hread : t.readBytes path = .ok content) :
    ∃ content', t'.readBytes path = .ok content' := by
  obtain ⟨hlast, place, hpath, hplace⟩ := readBytes_eq_ok_iff.mp hread
  obtain ⟨content', hplace', -⟩ := hgrows.file hplace
  exact ⟨content', readBytes_eq_ok_iff.mpr
    ⟨hlast, place, resolve_mono hfree hgrows hpath, hplace'⟩⟩

/-- A file still has its content, unless its name is one of those that may be written. -/
lemma readBytes_mono (hfree : t.LinkFree) (hgrows : t.Grows names t') {path : Path} {name : Text}
    (hend : path.EndsIn name) (hname : ¬ names name) {content : List UInt8}
    (hread : t.readBytes path = .ok content) : t'.readBytes path = .ok content := by
  obtain ⟨hlast, place, hpath, hplace⟩ := readBytes_eq_ok_iff.mp hread
  obtain ⟨content', hplace', hsame⟩ := hgrows.file hplace
  have hcontent : content' = content := hsame fun last hplaceLast => by
    rw [getLast?_of_resolve hfree hend hpath] at hplaceLast
    cases hplaceLast
    exact hname
  exact readBytes_eq_ok_iff.mpr
    ⟨hlast, place, resolve_mono hfree hgrows hpath, hcontent ▸ hplace'⟩

/-- A file is written where a path ends in a name and leads to no directory. -/
lemma writeBytes_eq_ok_iff {path : Path} {content : List UInt8} :
    t.writeBytes path content = .ok t' ↔ endsInName path = true ∧
      ∃ place, t.resolve path = .ok place ∧ t.entry? place ≠ some .directory ∧
        t.put place (.file content) = t' := by
  rw [writeBytes]
  rcases hpath : t.resolve path with fault | place
  · split_ifs <;> simp [bind, Except.bind]
  split_ifs with hname
  · rcases hentry : t.entry? place with _ | _ | _ | target <;>
      simp [bind, Except.bind, hname, hentry]
  · simp [bind, Except.bind, hname]

/-- Writing a file gives it the content and changes no file of another name. -/
lemma writeBytes_spec (hfree : t.LinkFree) {path : Path} {name : Text} (hend : path.EndsIn name)
    {content : List UInt8} (hwrite : t.writeBytes path content = .ok t') :
    t.Grows (· = name) t' ∧ t'.readBytes path = .ok content := by
  obtain ⟨hname, place, hpath, hplace, rfl⟩ := writeBytes_eq_ok_iff.mp hwrite
  have hgrows : t.Grows (· = name) (t.put place (.file content)) :=
    .put_file hfree hplace content fun last hlast => by
      simpa [getLast?_of_resolve hfree hend hpath, eq_comm] using hlast
  have hlast : path.getLast? ≠ some '/' :=
    bne_iff_ne.mp (Bool.and_eq_true_iff.mp hname).1
  exact ⟨hgrows, readBytes_eq_ok_iff.mpr
    ⟨hlast, place, resolve_mono hfree hgrows hpath, entry?_put_self hplace _⟩⟩

/-- A file is written again. -/
lemma exists_writeBytes {path : Path} {name : Text} (hend : path.EndsIn name)
    {held : List UInt8} (hread : t.readBytes path = .ok held) (content : List UInt8) :
    ∃ t', t.writeBytes path content = .ok t' := by
  obtain ⟨above, hparts⟩ := hend.parts
  obtain ⟨hlast, place, hpath, hplace⟩ := readBytes_eq_ok_iff.mp hread
  have hname : endsInName path = true := by
    simp [endsInName, hparts, hlast, hend.ne_dot, hend.ne_up]
  exact ⟨_, writeBytes_eq_ok_iff.mpr ⟨hname, place, hpath, by simp [hplace], rfl⟩⟩

/-! ### Directories -/

lemma kind_eq_directory_iff {path : Path} : t.kind path = .ok .directory ↔
    ∃ place, t.resolve path = .ok place ∧ t.entry? place = some .directory := by
  simp only [kind_eq_ok_iff, find_eq_ok_iff]
  constructor
  · rintro ⟨place, entry, ⟨hpath, hplace, -⟩, hkind⟩
    cases entry with
    | file content => cases hkind
    | directory => exact ⟨place, hpath, hplace⟩
    | link target => cases hkind
  · rintro ⟨place, hpath, hplace⟩
    exact ⟨place, .directory, ⟨hpath, hplace, fun h => by cases h⟩, rfl⟩

/-- A directory is still there. -/
lemma kind_mono (hfree : t.LinkFree) (hgrows : t.Grows names t') {path : Path}
    (hkind : t.kind path = .ok .directory) : t'.kind path = .ok .directory := by
  obtain ⟨place, hpath, hplace⟩ := kind_eq_directory_iff.mp hkind
  exact kind_eq_directory_iff.mpr
    ⟨place, resolve_mono hfree hgrows hpath, hgrows.directory hplace⟩

/-- A directory is made where nothing stands; in a tree without links, where its path leads. -/
lemma exists_of_makeDirectory {path : Path} (hmake : t.makeDirectory path = .ok t') :
    ∃ place, t.entry? place = none ∧ t.put place .directory = t' ∧
      (t.LinkFree → t.resolve path = .ok place) := by
  rw [makeDirectory] at hmake
  split_ifs at hmake with hnil hnul
  rcases hlast : path.parts.getLast? with _ | name
  · simp [hlast] at hmake
  have hparts := List.dropLast_append_getLast? name hlast
  rcases habove : follow t linkLimit (startOf [] path) (path.parts.dropLast ++ [['.']])
    with fault | above
  · simp [hlast, habove, bind, Except.bind] at hmake
  simp only [hlast, habove, bind, Except.bind] at hmake
  split_ifs at hmake with hdots hlong
  obtain ⟨hdot, hup⟩ := not_or.mp hdots
  rcases hplace : t.entry? (above ++ [name]) with _ | entry
  · refine ⟨above ++ [name], hplace, by simpa [hplace] using hmake, fun hfree => ?_⟩
    rw [resolve, if_neg hnil, if_neg hnul, ← hparts]
    exact (walk_concat_eq_ok_iff hfree _ hdot hup).mpr ⟨above, habove, not_lt.mp hlong, rfl⟩
  · simp [hplace] at hmake

/-- A directory that is made is there, and nothing else has changed. -/
lemma makeDirectory_spec (hfree : t.LinkFree) {path : Path}
    (hmake : t.makeDirectory path = .ok t') :
    t.Grows names t' ∧ t'.kind path = .ok .directory := by
  obtain ⟨place, hplace, rfl, hpath⟩ := exists_of_makeDirectory hmake
  have hgrows : t.Grows names (t.put place .directory) := .put_directory hfree hplace
  exact ⟨hgrows, kind_eq_directory_iff.mpr ⟨place, resolve_mono hfree hgrows (hpath hfree),
    entry?_put_self (by simp [hplace]) _⟩⟩

/-- A directory is not made where one is. -/
lemma makeDirectory_of_kind (hfree : t.LinkFree) {path : Path}
    (hkind : t.kind path = .ok .directory) : t.makeDirectory path = .error .alreadyExists := by
  obtain ⟨place, hpath, hplace⟩ := kind_eq_directory_iff.mp hkind
  rw [resolve] at hpath
  split_ifs at hpath with hnil hnul
  rw [makeDirectory, if_neg hnil, if_neg hnul]
  rcases hlast : path.parts.getLast? with _ | name
  · rfl
  rw [← List.dropLast_append_getLast? name hlast] at hpath
  obtain ⟨above, habove, -⟩ := (walk_append_eq_ok_iff hfree (by simp)).mp hpath
  have hfollow : follow t linkLimit (startOf [] path) (path.parts.dropLast ++ [['.']]) =
    .ok above := habove
  simp only [hfollow, bind, Except.bind]
  by_cases hdots : name = ['.'] ∨ name = ['.', '.']
  · rw [if_pos hdots]
  · obtain ⟨hdot, hup⟩ := not_or.mp hdots
    obtain ⟨above', habove', hshort, rfl⟩ := (walk_concat_eq_ok_iff hfree _ hdot hup).mp hpath
    cases habove.symm.trans habove'
    rw [if_neg hdots, if_neg (not_lt.mpr hshort), hplace]

end Grown

end Tree

end ContractScaffold
