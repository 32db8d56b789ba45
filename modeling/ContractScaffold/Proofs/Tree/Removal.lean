/-
Trees without one of their entries: what a path leads to when the entry is gone.

* `Path.LeadsThrough`: the places on the way of a path, as far as its names tell.
* `Path.LeadsThrough.of_mem_ancestors`: the directories above a path lead through no other
  places.
* `Tree.without`, `put_without`: a tree without the entry at a place.
* `find_without`, `writeBytes_without`, `makeDirectory_without`: paths that do not lead
  through the place do not see that the entry is gone.
* `resolve_without_eq_ok_iff`: where the entry is a file, every path leads where it led.
* `WellFormed.documentsIn_without`: a directory without one of its documents holds the others.
-/
import ContractScaffold.Proofs.Tree.Documents

namespace ContractScaffold

open Text

/-! ### Where names lead by themselves -/

namespace Path

/-- Some beginning of the path leads to the place, be it the whole path. -/
def LeadsThrough (path : Path) (place : Place) : Prop :=
  ∃ names, names <+: path.parts ∧ names.foldl Tree.step (Tree.startOf [] path) = place

/-- A path put together from pieces has the names among them. -/
lemma parts_joinWith {pieces : List Text} (hne : pieces ≠ [])
    (hslash : ∀ piece ∈ pieces, '/' ∉ piece) :
    parts (joinWith ['/'] pieces) = pieces.filter fun name => !name.isEmpty := by
  rw [parts, joinWith, List.splitOn_intercalate '/' hslash hne]

/-- A path put together from pieces is absolute where the first of several is empty. -/
lemma startOf_joinWith {first : Text} (hslash : '/' ∉ first) (rest : List Text) :
    Tree.startOf [] (joinWith ['/'] (first :: rest)) =
      if first = [] ∧ rest ≠ [] then Tree.outside else [] := by
  have hhead : (joinWith ['/'] (first :: rest)).head? = some '/' ↔ first = [] ∧ rest ≠ [] := by
    rw [joinWith_cons]
    rcases first with _ | ⟨c, first⟩
    · cases rest <;> simp
    · have hc : c ≠ '/' := fun h => hslash (by simp [h])
      simp [hc]
  simp only [Tree.startOf, hhead]

lemma dropIdle_isPrefix (names : List Text) : dropIdle names <+: names := by
  rw [dropIdle, ← List.reverse_suffix, List.reverse_reverse]
  exact List.dropWhile_suffix _

/-- The directory that a path lies in has the first names of the path. -/
lemma of_parent? {path above : Path} (h : path.parent? = some above) :
    above.parts <+: path.parts ∧ Tree.startOf [] above = Tree.startOf [] path := by
  obtain ⟨first, rest, hsplit⟩ := List.exists_cons_of_ne_nil (List.splitOn_ne_nil '/' path)
  have hslash : ∀ piece ∈ first :: rest, '/' ∉ piece := fun piece hpiece hc => by
    rw [← hsplit] at hpiece
    simpa using (mem_splitOnP hpiece hc).2
  have hpath : path = joinWith ['/'] (first :: rest) := by
    rw [← hsplit, joinWith, List.intercalate_splitOn]
  have hstart := startOf_joinWith (hslash first (by simp)) rest
  rw [← hpath] at hstart
  have hparts := parts_joinWith (by simp) hslash
  rw [← hpath] at hparts
  rw [parent?, hsplit] at h
  simp only at h
  have hnames := dropIdle_isPrefix rest
  rcases hidle : dropIdle rest with _ | ⟨name, names⟩
  · rw [hidle] at h
    by_cases hfirst : first = []
    · simp [hfirst] at h
    · obtain rfl : [] = above := by simpa [hfirst] using h
      exact ⟨List.nil_prefix, by rw [hstart, if_neg (by simp [hfirst])]; rfl⟩
  · rw [hidle] at h hnames
    have hrest : rest ≠ [] := by rintro rfl; simp at hnames
    have hbefore : dropIdle (name :: names).dropLast <+: rest :=
      ((dropIdle_isPrefix _).trans (List.dropLast_prefix _)).trans hnames
    simp only at h
    rcases hdir : dropIdle (name :: names).dropLast with _ | ⟨piece, pieces⟩
    · rw [hdir] at h
      by_cases hfirst : first = []
      · obtain rfl : ['/'] = above := by simpa [hfirst] using h
        have hroot : parts ['/'] = [] := rfl
        exact ⟨hroot ▸ List.nil_prefix, by rw [hstart, if_pos ⟨hfirst, hrest⟩]; rfl⟩
      · obtain rfl : first = above := by simpa [hfirst] using h
        have hself := startOf_joinWith (hslash first (by simp)) []
        rw [joinWith, List.intercalate_singleton] at hself
        refine ⟨?_, by rw [hstart, hself, if_neg (by simp), if_neg (by simp [hfirst])]⟩
        rw [parts_of_slash_notMem hfirst (hslash first (by simp)), hparts,
          List.filter_cons_of_pos (by simpa using hfirst)]
        simp
    · rw [hdir] at h hbefore
      obtain rfl := Option.some.inj h
      have hsub : (first :: piece :: pieces) <+: first :: rest := by simpa using hbefore
      refine ⟨?_, ?_⟩
      · rw [parts_joinWith (by simp) fun p hp => hslash p (hsub.subset hp), hparts]
        exact hsub.filter _
      · rw [startOf_joinWith (hslash first (by simp)), hstart]
        simp [hrest]

lemma LeadsThrough.of_parent? {path above : Path} {place : Place}
    (h : path.parent? = some above) (hplace : above.LeadsThrough place) :
    path.LeadsThrough place := by
  obtain ⟨hparts, hstart⟩ := Path.of_parent? h
  obtain ⟨names, hnames, hplace⟩ := hplace
  exact ⟨names, hnames.trans hparts, hstart ▸ hplace⟩

/-- The directories above a path lead through no other places. -/
lemma LeadsThrough.of_mem_ancestors {path above : Path} {place : Place}
    (habove : above ∈ path.ancestors) (hplace : above.LeadsThrough place) :
    path.LeadsThrough place := by
  rw [ancestors] at habove
  generalize path.length = count at habove
  induction count generalizing path with
  | zero => simp [ancestorsFrom] at habove
  | succ count ih =>
      rw [ancestorsFrom] at habove
      split_ifs at habove with hnil
      · simp at habove
      · rcases hparent : path.parent? with _ | next
        · rw [hparent] at habove
          obtain rfl := List.mem_singleton.mp habove
          exact hplace
        · rw [hparent] at habove
          rcases List.mem_cons.mp habove with rfl | habove
          · exact hplace
          · exact (ih habove).of_parent? hparent

/-- A path to a name in a directory leads through the places of the directory, and to the
name. -/
lemma LeadsThrough.of_join {dir : Path} {name : Text} (hname : 2 < name.length)
    (hslash : '/' ∉ name) {place : Place} (hplace : (dir.join name).LeadsThrough place) :
    dir.LeadsThrough place ∨ place.getLast? = some name := by
  have hne : name ≠ [] := by rintro rfl; simp at hname
  have hhead : name.head? ≠ some '/' := fun h => hslash (List.mem_of_mem_head? h)
  obtain ⟨names, hnames, hplace⟩ := hplace
  rw [parts_join dir hne hslash, List.prefix_concat_iff] at hnames
  rw [Tree.startOf_join dir hhead] at hplace
  rcases hnames with rfl | hnames
  · refine .inr ?_
    rw [List.foldl_concat, Tree.step_name _ (by rintro rfl; simp at hname)
      (by rintro rfl; simp at hname)] at hplace
    rw [← hplace, List.getLast?_concat]
  · exact .inl ⟨names, hnames, hplace⟩

/-- Where none of its names are dots, a path leads through the places that its names begin
with. -/
lemma leadsThrough_iff_prefix {path : Path} {place : Place}
    (hnames : ∀ name ∈ path.parts, name ≠ ['.'] ∧ name ≠ ['.', '.']) :
    path.LeadsThrough place ↔
      ∃ names, names <+: path.parts ∧ place = Tree.startOf [] path ++ names := by
  have hfold : ∀ (names : List Text) (start : Place),
      (∀ name ∈ names, name ≠ ['.'] ∧ name ≠ ['.', '.']) →
        names.foldl Tree.step start = start ++ names := by
    intro names
    induction names with
    | nil => simp
    | cons name names ih =>
        intro start hplain
        obtain ⟨⟨hdot, hup⟩, hplain⟩ := List.forall_mem_cons.mp hplain
        rw [List.foldl_cons, Tree.step_name start hdot hup, ih _ hplain, List.append_assoc]
        rfl
  refine exists_congr fun names => and_congr_right fun hbegin => ?_
  rw [hfold names _ fun name hname => hnames name (hbegin.subset hname), eq_comm]

end Path

/-! ### Trees without an entry -/

namespace Tree

variable {t : Tree} {gone : Place}

/-- The tree without the entry at a place. -/
def without (t : Tree) (gone : Place) : Tree :=
  t.filter fun item => item.1 ≠ gone

lemma without_cons (item : Place × Entry) (t : Tree) (gone : Place) :
    without (item :: t) gone =
      if item.1 = gone then t.without gone else item :: t.without gone := by
  by_cases hitem : item.1 = gone <;> simp [without, hitem]

lemma lookup_without_of_ne {place : Place} (hne : place ≠ gone) :
    (t.without gone).lookup place = t.lookup place := by
  induction t with
  | nil => rfl
  | cons item t ih =>
      rw [without_cons]
      split_ifs with hitem
      · rw [ih, List.lookup_cons, beq_false_of_ne (hitem ▸ hne)]
      · rw [List.lookup_cons, List.lookup_cons, ih]

lemma entry?_without_of_ne {place : Place} (hne : place ≠ gone) :
    Tree.entry? (t.without gone) place = t.entry? place := by
  unfold entry?
  rw [lookup_without_of_ne hne]

lemma entry?_without_self (hgone : t.entry? gone ≠ some .directory) :
    Tree.entry? (t.without gone) gone = none := by
  have hroot : ¬ (gone = [] ∨ gone = outside) := fun h => hgone (if_pos h)
  rw [entry?_eq_lookup (not_or.mp hroot), List.lookup_eq_none_iff]
  intro item hitem
  have hne : item.1 ≠ gone := by simpa using (List.mem_filter.mp hitem).2
  exact bne_iff_ne.mpr hne.symm

/-- Without a file, the directories are the same. -/
lemma entry?_without_eq_directory_iff {content : List UInt8}
    (hgone : t.entry? gone = some (.file content)) (place : Place) :
    Tree.entry? (t.without gone) place = some .directory ↔ t.entry? place = some .directory := by
  rcases eq_or_ne place gone with rfl | hne
  · simp [entry?_without_self, hgone]
  · rw [entry?_without_of_ne hne]

lemma LinkFree.without (hfree : t.LinkFree) (gone : Place) : (t.without gone).LinkFree :=
  fun item hitem => hfree item (List.mem_filter.mp hitem).1

lemma put_without {place : Place} (hne : place ≠ gone) (entry : Entry) :
    (t.put place entry).without gone = (t.without gone).put place entry := by
  induction t with
  | nil => rw [put, without_cons, if_neg hne]; rfl
  | cons item t ih =>
      rw [put, without_cons]
      by_cases hplace : item.1 = place
      · rw [if_pos hplace, without_cons, if_neg hne, if_neg (hplace ▸ hne), put, if_pos hplace]
      · rw [if_neg hplace, without_cons, ih]
        split_ifs with hitem
        · rfl
        · rw [put, if_neg hplace]

lemma WellFormed.without (ht : t.WellFormed) (gone : Place) : (t.without gone).WellFormed where
  linkFree := ht.linkFree.without gone
  nodup := ht.nodup.sublist (List.filter_sublist.map _)
  names item hitem := ht.names item (List.mem_filter.mp hitem).1

/-- The documents in a directory without one of them. -/
lemma holdsDocument_without_iff {place : Place} {name : Text} {content : List UInt8}
    (hfile : t.entry? (place ++ [name]) = some (.file content)) {other : Text} :
    Tree.HoldsDocument (t.without (place ++ [name])) place other ↔
      t.HoldsDocument place other ∧ other ≠ name := by
  rcases eq_or_ne other name with rfl | hne
  · simp [HoldsDocument, entry?_without_self (show t.entry? (place ++ [other]) ≠ some .directory by
      simp [hfile])]
  · rw [HoldsDocument, HoldsDocument, entry?_without_of_ne (by simp [hne])]
    simp [hne]

/-! ### Walking without the entry -/

section Walk

variable {followed followed' : Place → Path → List Text → Except Fault Place}

/-- Without links, names lead where they lead by themselves. -/
lemma foldl_step_of_walk (hfree : t.LinkFree) {start place : Place} {names : List Text}
    (hwalk : walk t followed start names = .ok place) : names.foldl step start = place := by
  induction names generalizing start with
  | nil => exact Except.ok.inj hwalk
  | cons name names ih =>
      rcases (walk_cons_eq_ok_iff hfree).mp hwalk with ⟨-, hwalk⟩ | ⟨-, rfl, hlast⟩
      · exact ih hwalk
      · exact hlast

/-- Names that do not lead through the place are walked as if the entry were there. -/
lemma walk_without (hfree : t.LinkFree) {start : Place} {names : List Text}
    (havoid : ∀ front, front <+: names → front.foldl step start ≠ gone) :
    walk (t.without gone) followed' start names = walk t followed start names := by
  induction names generalizing start with
  | nil => rfl
  | cons name names ih =>
      have hnext : ∀ front, front <+: names → front.foldl step (step start name) ≠ gone :=
        fun front hfront => havoid (name :: front) (by simpa using hfront)
      by_cases hdot : name = ['.']
      · rw [walk, walk, if_pos hdot, if_pos hdot]
        exact ih (by simpa only [hdot, step_dot] using hnext)
      by_cases hup : name = ['.', '.']
      · rw [walk, walk, if_neg hdot, if_neg hdot, if_pos hup, if_pos hup]
        exact ih (by simpa only [hup, step_up] using hnext)
      rw [step_name start hdot hup] at hnext
      have hhere : start ++ [name] ≠ gone := hnext [] List.nil_prefix
      rw [walk, walk, if_neg hdot, if_neg hdot, if_neg hup, if_neg hup,
        entry?_without_of_ne hhere]
      by_cases hlong : nameLimit < (utf8 name).length
      · rw [if_pos hlong, if_pos hlong]
      · rw [if_neg hlong, if_neg hlong]
        rcases hentry : t.entry? (start ++ [name]) with _ | _ | _ | target
        · rfl
        · rfl
        · exact ih hnext
        · exact absurd hentry (hfree.ne_link _ _)

/-- **Names lead to the same place without a file**, if they lead anywhere: behind a file
there is as little as behind nothing. -/
lemma walk_without_eq_ok_iff (hfree : t.LinkFree) {content : List UInt8}
    (hgone : t.entry? gone = some (.file content)) {start place : Place} {names : List Text} :
    walk (t.without gone) followed' start names = .ok place ↔
      walk t followed start names = .ok place := by
  induction names generalizing start with
  | nil => rfl
  | cons name names ih =>
      have hentry := entry?_without_eq_directory_iff hgone (start ++ [name])
      rw [walk_cons_eq_ok_iff hfree, walk_cons_eq_ok_iff (hfree.without gone), ih]
      simp only [LeadsOn, stopsAt_iff, hentry, ne_eq]

end Walk

/-! ### Paths that do not see that the entry is gone -/

lemma not_leadsThrough_of_prefix {path : Path} (havoid : ¬ path.LeadsThrough gone)
    {names : List Text} (hnames : names <+: path.parts) :
    names.foldl step (startOf [] path) ≠ gone :=
  fun h => havoid ⟨names, hnames, h⟩

/-- A path leads through the place that it leads to. -/
lemma leadsThrough_of_resolve (hfree : t.LinkFree) {path : Path} {place : Place}
    (hpath : t.resolve path = .ok place) : path.LeadsThrough place := by
  rw [resolve] at hpath
  split_ifs at hpath
  exact ⟨path.parts, List.prefix_rfl, foldl_step_of_walk hfree hpath⟩

lemma resolve_without (hfree : t.LinkFree) {path : Path} (havoid : ¬ path.LeadsThrough gone) :
    (t.without gone).resolve path = t.resolve path := by
  rw [resolve, resolve]
  split_ifs
  · rfl
  · rfl
  · exact walk_without hfree fun front hfront => not_leadsThrough_of_prefix havoid hfront

lemma resolve_without_eq_ok_iff (hfree : t.LinkFree) {content : List UInt8}
    (hgone : t.entry? gone = some (.file content)) {path : Path} {place : Place} :
    (t.without gone).resolve path = .ok place ↔ t.resolve path = .ok place := by
  rw [resolve, resolve]
  split_ifs
  · rfl
  · rfl
  · exact walk_without_eq_ok_iff hfree hgone

/-- **A directory without one of its documents** holds the others. -/
lemma WellFormed.documentsIn_without (ht : t.WellFormed) {dir : Path} {place : Place}
    (hdir : t.resolve dir = .ok place) (hplace : t.entry? place = some .directory)
    {front back : List Text} {name : Text}
    (hnames : ListsInOrder (t.HoldsDocument place) (front ++ name :: back)) :
    Tree.documentsIn (t.without (place ++ [name])) dir =
      .ok ((front ++ back).map fun name => dir.join name) := by
  obtain ⟨-, content, hfile⟩ := (hnames.mem_iff name).mp (by simp)
  have hdir' : Tree.resolve (t.without (place ++ [name])) dir = .ok place :=
    (resolve_without_eq_ok_iff ht.linkFree hfile).mpr hdir
  have hplace' : Tree.entry? (t.without (place ++ [name])) place = some .directory :=
    (entry?_without_eq_directory_iff hfile place).mpr hplace
  obtain ⟨others, hothers, hfound⟩ :=
    (ht.without (place ++ [name])).documentsIn_directory hdir' hplace'
  obtain rfl := (hothers.congr fun _ => holdsDocument_without_iff hfile).unique hnames.without
  exact hfound

/-- What stands at another place is found without the entry. -/
lemma find_without_of_resolve {path : Path} {place : Place} (hpath : t.resolve path = .ok place)
    (hwithout : (t.without gone).resolve path = .ok place) (hne : place ≠ gone) :
    (t.without gone).find path = t.find path := by
  simp only [find, hpath, hwithout, bind, Except.bind, entry?_without_of_ne hne]

lemma find_without (hfree : t.LinkFree) {path : Path} (havoid : ¬ path.LeadsThrough gone) :
    (t.without gone).find path = t.find path := by
  have hresolve := resolve_without hfree havoid
  rcases hpath : t.resolve path with fault | place
  · simp only [find, hresolve, hpath, bind, Except.bind]
  · refine find_without_of_resolve hpath (hresolve.trans hpath) ?_
    rintro rfl
    exact havoid (leadsThrough_of_resolve hfree hpath)

/-- A file is written without the entry as with it. -/
lemma writeBytes_without (hfree : t.LinkFree) {path : Path} (havoid : ¬ path.LeadsThrough gone)
    (content : List UInt8) : (t.without gone).writeBytes path content =
      (t.writeBytes path content).map fun t' => t'.without gone := by
  rw [writeBytes, writeBytes, resolve_without hfree havoid]
  rcases hpath : t.resolve path with fault | place
  · split_ifs <;> rfl
  have hne : place ≠ gone := by
    rintro rfl
    exact havoid (leadsThrough_of_resolve hfree hpath)
  split_ifs
  · simp only [bind, Except.bind, entry?_without_of_ne hne]
    rcases t.entry? place with _ | _ | _ | target
    · exact congrArg Except.ok (put_without hne _).symm
    · exact congrArg Except.ok (put_without hne _).symm
    · rfl
    · exact congrArg Except.ok (put_without hne _).symm
  · rfl

/-- A directory is made without the entry as with it. -/
lemma makeDirectory_without (hfree : t.LinkFree) {path : Path}
    (havoid : ¬ path.LeadsThrough gone) : (t.without gone).makeDirectory path =
      (t.makeDirectory path).map fun t' => t'.without gone := by
  rw [makeDirectory, makeDirectory]
  split_ifs with hnil hnul
  · rfl
  · rfl
  rcases hlast : path.parts.getLast? with _ | name
  · rfl
  have hparts := List.dropLast_append_getLast? name hlast
  have hbefore : ∀ front, front <+: path.parts.dropLast ++ [['.']] →
      front.foldl step (startOf [] path) ≠ gone := by
    intro front hfront
    rcases List.prefix_concat_iff.mp hfront with rfl | hfront
    · rw [List.foldl_concat, step_dot]
      exact not_leadsThrough_of_prefix havoid (List.dropLast_prefix _)
    · exact not_leadsThrough_of_prefix havoid (hfront.trans (List.dropLast_prefix _))
  have hfollow : follow (t.without gone) linkLimit (startOf [] path)
      (path.parts.dropLast ++ [['.']]) =
        follow t linkLimit (startOf [] path) (path.parts.dropLast ++ [['.']]) :=
    walk_without hfree hbefore
  simp only [hfollow]
  rcases habove : follow t linkLimit (startOf [] path) (path.parts.dropLast ++ [['.']])
    with fault | above
  · rfl
  simp only [bind, Except.bind]
  split_ifs with hdots hlong
  · rfl
  · rfl
  obtain ⟨hdot, hup⟩ := not_or.mp hdots
  have hne : above ++ [name] ≠ gone := by
    have hhere := foldl_step_of_walk hfree habove
    rw [List.foldl_concat, step_dot] at hhere
    have hlast := not_leadsThrough_of_prefix havoid List.prefix_rfl
    rwa [← hparts, List.foldl_concat, hhere, step_name above hdot hup] at hlast
  rw [entry?_without_of_ne hne]
  rcases t.entry? (above ++ [name]) with _ | entry
  · exact congrArg Except.ok (put_without hne _).symm
  · rfl

end Tree

end ContractScaffold
