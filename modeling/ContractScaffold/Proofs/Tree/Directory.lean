/-
Directories of a tree: what they hold, and where paths lead that go through them, links
included.

* `Tree.follow_append`: behind a path that leads to a directory the names are walked from
  there.
* `Tree.entry?_of_resolve_join`: what a path below a directory leads to has an entry in that
  directory, as itself or as a link.
* `Tree.listing`, `Tree.entries_eq_ok_iff`: only directories have entries, which are the items
  of the tree in them (`Tree.mem_listing`).
* `Tree.exists_mem_entries_iff`: the names among the entries are those at which something
  stands.
* `Tree.kind_eq_file_iff`: regular files are what has a content.
-/
import ContractScaffold.Proofs.Tree

namespace ContractScaffold

open Text

namespace Tree

variable {t : Tree}

/-! ### Walking through directories -/

/-- Names are walked one after the other. Where the first of them lead to a directory, the
others are walked from there, through the links that are left; `hfollowed` says so of the
names behind a link. -/
lemma walk_append_of_directory {links : Nat}
    {followed : Place → Path → List Text → Except Fault Place}
    (hself : t.follow links = walk t followed)
    (hfollowed : ∀ here target names place, followed here target names = .ok place →
      t.entry? place = some .directory →
      ∃ left, ∀ rest, followed here target (names ++ rest) = t.follow left place rest)
    {start place : Place} {names : List Text} (hwalk : walk t followed start names = .ok place)
    (hplace : t.entry? place = some .directory) :
    ∃ left, ∀ rest, walk t followed start (names ++ rest) = t.follow left place rest := by
  induction names generalizing start with
  | nil =>
      obtain rfl := Except.ok.inj hwalk
      exact ⟨links, fun rest => by rw [hself, List.nil_append]⟩
  | cons name names ih =>
      by_cases hdot : name = ['.']
      · rw [walk, if_pos hdot] at hwalk
        obtain ⟨left, hleft⟩ := ih hwalk
        exact ⟨left, fun rest => by rw [List.cons_append, walk, if_pos hdot, hleft]⟩
      by_cases hup : name = ['.', '.']
      · rw [walk, if_neg hdot, if_pos hup] at hwalk
        obtain ⟨left, hleft⟩ := ih hwalk
        exact ⟨left, fun rest => by rw [List.cons_append, walk, if_neg hdot, if_pos hup, hleft]⟩
      by_cases hlong : nameLimit < (utf8 name).length
      · rw [walk, if_neg hdot, if_neg hup, if_pos hlong] at hwalk
        cases hwalk
      rw [walk, if_neg hdot, if_neg hup, if_neg hlong] at hwalk
      -- nothing and a file are no directory, so the walk did not end at them
      have hend : ∀ {fault : Fault}, t.entry? (start ++ [name]) ≠ some .directory →
          (if names = [] then .ok (start ++ [name]) else .error fault) ≠ Except.ok place := by
        intro fault hentry h
        split_ifs at h
        cases h
        exact hentry hplace
      rcases hentry : t.entry? (start ++ [name]) with _ | _ | _ | target
      · simp only [hentry] at hwalk
        exact absurd hwalk (hend (by simp [hentry]))
      · simp only [hentry] at hwalk
        exact absurd hwalk (hend (by simp [hentry]))
      · simp only [hentry] at hwalk
        obtain ⟨left, hleft⟩ := ih hwalk
        refine ⟨left, fun rest => ?_⟩
        simp only [List.cons_append, walk, if_neg hdot, if_neg hup, if_neg hlong, hentry, hleft]
      · simp only [hentry] at hwalk
        obtain ⟨left, hleft⟩ := hfollowed start target names place hwalk hplace
        refine ⟨left, fun rest => ?_⟩
        simp only [List.cons_append, walk, if_neg hdot, if_neg hup, if_neg hlong, hentry, hleft]

/-- **Behind a path that leads to a directory** the names are walked from there. -/
lemma follow_append {links : Nat} {start place : Place} {names : List Text}
    (hfollow : t.follow links start names = .ok place)
    (hplace : t.entry? place = some .directory) :
    ∃ left, ∀ rest, t.follow links start (names ++ rest) = t.follow left place rest := by
  induction links generalizing start place names with
  | zero =>
      have hself : t.follow 0 = walk t fun _ _ _ => .error .tooManyLinks := rfl
      exact walk_append_of_directory hself (fun _ _ _ _ h => by cases h) hfollow hplace
  | succ links ih =>
      have hself : t.follow (links + 1) = walk t fun here target rest =>
        t.follow links (startOf here target) (target.parts ++ rest) := rfl
      refine walk_append_of_directory hself (fun here target names' place' h hplace' => ?_)
        hfollow hplace
      obtain ⟨left, hleft⟩ := ih h hplace'
      exact ⟨left, fun rest => by rw [← hleft, List.append_assoc]⟩

lemma exists_follow_eq_walk (t : Tree) (links : Nat) :
    ∃ followed, t.follow links = walk t followed := by
  cases links with
  | zero => exact ⟨_, rfl⟩
  | succ links => exact ⟨_, rfl⟩

/-- A path below a directory is walked from the directory. -/
lemma exists_resolve_join {dir : Path} {place : Place} (hdir : t.resolve dir = .ok place)
    (hplace : t.entry? place = some .directory) {name : Text} (hne : name ≠ [])
    (hslash : '/' ∉ name) : ∃ followed, t.resolve (dir.join name) =
      if '\x00' ∈ name then .error .nulInPath else walk t followed place [name] := by
  have hhead : name.head? ≠ some '/' := fun h => hslash (List.mem_of_mem_head? h)
  rw [resolve] at hdir
  split_ifs at hdir with hnil hnul
  have hjoin : dir.join name ≠ [] := fun h =>
    hne (List.suffix_nil.mp (h ▸ Path.suffix_join dir name))
  have hclean : '\x00' ∈ dir.join name ↔ '\x00' ∈ name := by
    rw [List.elem_iff] at hnul
    rw [Path.join, if_neg hhead]
    split_ifs
    · simp [hnul]
    · simp [hnul]
  obtain ⟨left, hleft⟩ := follow_append hdir hplace
  obtain ⟨followed, hfollowed⟩ := t.exists_follow_eq_walk left
  refine ⟨followed, ?_⟩
  simp only [resolve, if_neg hjoin, List.elem_iff, hclean, Path.parts_join dir hne hslash,
    startOf_join dir hhead, hleft, hfollowed]

/-- What a path below a directory leads to has an entry in that directory, as itself or as a
link. -/
lemma entry?_of_resolve_join {dir : Path} {place found : Place} (hdir : t.resolve dir = .ok place)
    (hplace : t.entry? place = some .directory) {name : Text} (hne : name ≠ [])
    (hslash : '/' ∉ name) (hdot : name ≠ ['.']) (hup : name ≠ ['.', '.'])
    (hpath : t.resolve (dir.join name) = .ok found) (hfound : t.entry? found ≠ none) :
    t.entry? (place ++ [name]) ≠ none := by
  obtain ⟨followed, hjoin⟩ := exists_resolve_join hdir hplace hne hslash
  rw [hjoin] at hpath
  split_ifs at hpath
  rw [walk, if_neg hdot, if_neg hup] at hpath
  intro hnone
  by_cases hlong : nameLimit < (utf8 name).length
  · simp [hlong] at hpath
  · simp only [hlong, hnone, if_true, if_false, Except.ok.injEq] at hpath
    exact hfound (hpath ▸ hnone)

/-! ### What a directory holds -/

/-- The entries in the directory at a place. -/
def listing (t : Tree) (place : Place) : List (Text × Kind) :=
  t.filterMap fun item =>
    match item.1.getLast? with
    | some name => if item.1.dropLast = place then some (name, item.2.kind) else none
    | none => none

/-- The entries of a path are those of the directory that it leads to. -/
lemma entries_eq_ok_iff {path : Path} {entries : List (Text × Kind)} :
    t.entries path = .ok entries ↔ ∃ place, t.resolve path = .ok place ∧
      t.entry? place = some .directory ∧ t.listing place = entries := by
  have hfind : t.entries path = .ok entries ↔
      ∃ place, t.find path = .ok (place, .directory) ∧ t.listing place = entries := by
    rw [Tree.entries]
    rcases t.find path with fault | ⟨place, held | _ | target⟩
    · simp [bind, Except.bind]
    · simp [bind, Except.bind]
    · change Except.ok (t.listing place) = .ok entries ↔ _
      simp
    · simp [bind, Except.bind]
  simp [hfind, find_eq_ok_iff, Entry.kind, and_assoc]

/-- An item of a tree is listed in the directory that its place lies in. -/
lemma listed_eq_some_iff {place : Place} {item : Place × Entry} {name : Text} {kind : Kind} :
    (match item.1.getLast? with
      | some name => if item.1.dropLast = place then some (name, item.2.kind) else none
      | none => none) = some (name, kind) ↔ item.1 = place ++ [name] ∧ item.2.kind = kind := by
  constructor
  · intro h
    split at h
    · next last hlast =>
        split_ifs at h with habove
        obtain ⟨rfl, rfl⟩ := Prod.mk.inj (Option.some.inj h)
        exact ⟨by rw [← habove, List.dropLast_append_getLast? last hlast], rfl⟩
    · cases h
  · rintro ⟨hitem, rfl⟩
    simp [hitem]

lemma mem_listing {place : Place} {name : Text} {kind : Kind} :
    (name, kind) ∈ t.listing place ↔
      ∃ entry, (place ++ [name], entry) ∈ t ∧ entry.kind = kind := by
  simp only [listing, List.mem_filterMap, listed_eq_some_iff]
  constructor
  · rintro ⟨⟨front, entry⟩, hitem, rfl, hkind⟩
    exact ⟨entry, hitem, hkind⟩
  · rintro ⟨entry, hitem, hkind⟩
    exact ⟨_, hitem, rfl, hkind⟩

/-- The places of the entries of a directory, in the order of the tree. -/
lemma listing_sublist (t : Tree) (place : Place) :
    ((t.listing place).map fun e => place ++ [e.1]).Sublist (t.map Prod.fst) := by
  induction t with
  | nil => exact .slnil
  | cons item t ih =>
      rw [listing, List.filterMap_cons, List.map_cons]
      split
      · exact ih.cons _
      · next e he =>
          obtain ⟨hitem, -⟩ := listed_eq_some_iff.mp he
          rw [List.map_cons, ← hitem]
          exact ih.cons_cons _

/-- A name is among the entries of a directory where something stands at its place. -/
lemma exists_mem_entries_iff {path : Path} {entries : List (Text × Kind)}
    (hentries : t.entries path = .ok entries) {place : Place} (hpath : t.resolve path = .ok place)
    {name : Text} (hname : place ++ [name] ≠ outside) :
    (∃ kind, (name, kind) ∈ entries) ↔ t.entry? (place ++ [name]) ≠ none := by
  obtain ⟨place', hpath', -, rfl⟩ := entries_eq_ok_iff.mp hentries
  obtain rfl := Except.ok.inj (hpath.symm.trans hpath')
  have hplace : t.entry? (place ++ [name]) = t.lookup (place ++ [name]) :=
    if_neg (by simp [hname])
  simp only [mem_listing, hplace, ← Option.isSome_iff_ne_none, List.lookup_isSome_iff]
  constructor
  · rintro ⟨-, entry, hitem, -⟩
    exact ⟨_, hitem, beq_self_eq_true _⟩
  · rintro ⟨⟨there, entry⟩, hitem, hsame⟩
    exact ⟨entry.kind, entry, eq_of_beq hsame ▸ hitem, rfl⟩

/-- Regular files are what has a content. -/
lemma kind_eq_file_iff {path : Path} :
    t.kind path = .ok .file ↔ ∃ content, t.readBytes path = .ok content := by
  constructor
  · rw [kind_eq_ok_iff]
    rintro ⟨place, entry, hfind, hkind⟩
    obtain ⟨hpath, hplace, hlast⟩ := find_eq_ok_iff.mp hfind
    cases entry with
    | file content => exact ⟨content, readBytes_eq_ok_iff.mpr ⟨hlast hkind, place, hpath, hplace⟩⟩
    | directory => cases hkind
    | link target => cases hkind
  · rintro ⟨content, hread⟩
    exact kind_of_readBytes hread

end Tree

end ContractScaffold
