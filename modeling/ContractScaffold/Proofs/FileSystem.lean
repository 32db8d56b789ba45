/-
Programs that run on a tree: what they give, and the tree that they leave.

* `Tree.run`, `Tree.perform`: a program run on a tree; `run_bind` and `perform_bind` run one
  step after the other.
* `Tree.Asks`: questions, which leave the tree as it was.
* `Tree.Yields`: programs that let a tree grow and, where they succeed, leave it as wanted.
* `yields_makeDirectories`, `perform_makeDirectories_of_kind`: directories that are made are
  there, and are made only where they are missing.
* `yields_writeText`, `perform_writeText_of_readBytes`: what writing a file leaves.
-/
import ContractScaffold.Proofs.Tree

namespace ContractScaffold

open Text

namespace Tree

variable {ε α β : Type} {t t' : Tree}

/-! ### Running a program -/

/-- What a program gives on a tree, and the tree that it leaves. -/
def run (t : Tree) (program : StateM Tree α) : α × Tree :=
  StateT.run program t

/-- The second program runs on the tree that the first one leaves. -/
lemma run_bind (program : StateM Tree α) (next : α → StateM Tree β) :
    t.run (program >>= next) = Tree.run (t.run program).2 (next (t.run program).1) :=
  rfl

/-- What a program that may fail gives on a tree, and the tree that it leaves. -/
def perform (t : Tree) (program : ExceptT ε (StateM Tree) α) : Except ε α × Tree :=
  t.run program.run

lemma perform_pure (a : α) : t.perform (pure a : ExceptT ε (StateM Tree) α) = (.ok a, t) := rfl

lemma perform_throw (e : ε) : t.perform (throw e : ExceptT ε (StateM Tree) α) = (.error e, t) :=
  rfl

/-- The second program runs only if the first one succeeds. -/
lemma perform_bind (program : ExceptT ε (StateM Tree) α)
    (next : α → ExceptT ε (StateM Tree) β) :
    t.perform (program >>= next) =
      match t.perform program with
      | (.ok a, t') => t'.perform (next a)
      | (.error e, t') => (.error e, t') := by
  have hrun : t.perform (program >>= next) =
    (ExceptT.bindCont next (t.perform program).1).run (t.perform program).2 := rfl
  rw [hrun]
  rcases t.perform program with ⟨_ | _, _⟩ <;> rfl

lemma perform_adapt {ε' : Type} (f : ε → ε') (program : ExceptT ε (StateM Tree) α) :
    t.perform (program.adapt f) = ((t.perform program).1.mapError f, (t.perform program).2) :=
  rfl

/-- After a success, the second program runs on the tree that the first one left. -/
lemma perform_bind_of_ok {program : ExceptT ε (StateM Tree) α} {a : α}
    (h : (t.perform program).1 = .ok a) (next : α → ExceptT ε (StateM Tree) β) :
    t.perform (program >>= next) = (t.perform program).2.perform (next a) := by
  rw [perform_bind]
  generalize t.perform program = run at h ⊢
  obtain ⟨r, t'⟩ := run
  obtain rfl : r = .ok a := h
  rfl

lemma perform_adapt_of_ok {ε' : Type} {program : ExceptT ε (StateM Tree) α} {a : α}
    (h : (t.perform program).1 = .ok a) (f : ε → ε') :
    (t.perform (program.adapt f)).1 = .ok a := by
  rw [perform_adapt, h]
  rfl

lemma perform_outcome (program : ExceptT Fault (StateM Tree) α) :
    t.perform (FileSystem.outcome program) = (.ok (t.perform program).1, (t.perform program).2) :=
  rfl

/-! ### Questions -/

/-- A program that leaves every tree as it was. -/
def Asks (program : ExceptT ε (StateM Tree) α) : Prop :=
  ∀ t : Tree, (t.perform program).2 = t

lemma Asks.perform_eq {program : ExceptT ε (StateM Tree) α} (h : Asks program) :
    t.perform program = ((t.perform program).1, t) :=
  Prod.ext rfl (h t)

lemma asks_pure (a : α) : Asks (pure a : ExceptT ε (StateM Tree) α) := fun _ => rfl

lemma asks_throw (e : ε) : Asks (throw e : ExceptT ε (StateM Tree) α) := fun _ => rfl

lemma asks_ask (question : Tree → Except Fault α) : Asks (ask question) := fun _ => rfl

lemma Asks.bind {program : ExceptT ε (StateM Tree) α} {next : α → ExceptT ε (StateM Tree) β}
    (h : Asks program) (hnext : ∀ a, Asks (next a)) : Asks (program >>= next) := fun t => by
  rw [perform_bind, h.perform_eq]
  rcases (t.perform program).1 with e | a
  · rfl
  · exact hnext a t

lemma Asks.adapt {ε' : Type} {program : ExceptT ε (StateM Tree) α} (h : Asks program)
    (f : ε → ε') : Asks (program.adapt f) := fun t => by
  rw [perform_adapt, h t]

lemma Asks.outcome {program : ExceptT Fault (StateM Tree) α} (h : Asks program) :
    Asks (FileSystem.outcome program) := fun t => by
  rw [perform_outcome, h t]

lemma asks_isKind (wanted : Kind) (path : Path) :
    Asks (FileSystem.isKind wanted path : ExceptT Fault (StateM Tree) Bool) := by
  refine (asks_ask _).outcome.bind fun found => ?_
  cases found <;> exact asks_pure _

lemma asks_readText (path : Path) :
    Asks (FileSystem.readText path : ExceptT Fault (StateM Tree) Text) := by
  refine (asks_ask _).bind fun bytes => ?_
  cases ofUtf8? bytes
  · exact asks_throw _
  · exact asks_pure _

lemma asks_documentsIn (dir : Path) :
    Asks (FileSystem.documentsIn dir : ExceptT Fault (StateM Tree) (List Path)) := by
  refine (asks_ask _).bind fun kind => ?_
  cases kind
  · exact asks_pure _
  · exact (asks_ask _).bind fun entries => asks_pure _
  · exact asks_pure _
  · exact asks_pure _

lemma perform_isKind (wanted : Kind) (path : Path) : ∃ found : Bool,
    t.perform (FileSystem.isKind wanted path) = (.ok found, t) ∧
      (found = true ↔ t.kind path = .ok wanted) := by
  have hkind : t.perform (FileSystem.outcome (FileSystem.kind path)) = (.ok (t.kind path), t) :=
    rfl
  rw [FileSystem.isKind, perform_bind, hkind]
  rcases t.kind path with fault | kind
  · exact ⟨false, rfl, by simp⟩
  · exact ⟨kind == wanted, rfl, by simp⟩

/-- The text in the file that a path leads to. -/
def readText (t : Tree) (path : Path) : Except Fault Text :=
  (t.perform (FileSystem.readText path)).1

lemma readText_eq_ok_iff {path : Path} {text : Text} : t.readText path = .ok text ↔
    ∃ bytes, t.readBytes path = .ok bytes ∧ ofUtf8? bytes = some text := by
  have hread : t.perform (FileSystem.readBytes path) = (t.readBytes path, t) := rfl
  rw [readText, FileSystem.readText, perform_bind, hread]
  rcases t.readBytes path with fault | bytes
  · simp
  · simp only [Except.ok.injEq, exists_eq_left']
    cases ofUtf8? bytes with
    | none => simp [perform_throw]
    | some found => simp [perform_pure]

/-! ### Steps that let a tree grow -/

/-- On the tree, the program does nothing but let it grow, and if it succeeds, its value
and the tree it leaves are as wanted. -/
def Yields (t : Tree) (names : Text → Prop) (program : ExceptT ε (StateM Tree) α)
    (wanted : α → Tree → Prop) : Prop :=
  t.Grows names (t.perform program).2 ∧
    ∀ a, (t.perform program).1 = .ok a → wanted a (t.perform program).2

namespace Yields

variable {names names' : Text → Prop} {program : ExceptT ε (StateM Tree) α}
  {wanted : α → Tree → Prop}

lemma of_asks (hfree : t.LinkFree) (hasks : Asks program)
    (h : ∀ a, (t.perform program).1 = .ok a → wanted a t) : t.Yields names program wanted := by
  rw [Yields, hasks t]
  exact ⟨.refl hfree, h⟩

lemma pure (hfree : t.LinkFree) {a : α} (h : wanted a t) :
    t.Yields names (Pure.pure a : ExceptT ε (StateM Tree) α) wanted :=
  of_asks hfree (asks_pure a) fun _ ha => by cases ha; exact h

lemma throw (hfree : t.LinkFree) (e : ε) :
    t.Yields names (MonadExcept.throw e : ExceptT ε (StateM Tree) α) wanted :=
  of_asks hfree (asks_throw e) fun _ ha => by cases ha

lemma imp (h : t.Yields names program wanted) {wanted' : α → Tree → Prop}
    (hnames : ∀ name, names name → names' name)
    (hwanted : ∀ a t', t.Grows names t' → wanted a t' → wanted' a t') :
    t.Yields names' program wanted' :=
  ⟨h.1.mono hnames, fun a ha => hwanted a _ h.1 (h.2 a ha)⟩

/-- The second program starts from what the first one was wanted for. -/
lemma bind (h : t.Yields names program wanted) {next : α → ExceptT ε (StateM Tree) β}
    {wanted' : β → Tree → Prop}
    (hnext : ∀ a t', t.Grows names t' → wanted a t' → t'.Yields names (next a) wanted') :
    t.Yields names (program >>= next) wanted' := by
  rw [Yields] at h
  rw [Yields, perform_bind]
  generalize t.perform program = run at h ⊢
  rcases run with ⟨e | a, t'⟩
  · exact ⟨h.1, by simp⟩
  · obtain ⟨hgrows, hwanted⟩ := hnext a t' h.1 (h.2 a rfl)
    exact ⟨h.1.trans hgrows, hwanted⟩

lemma adapt {ε' : Type} (h : t.Yields names program wanted) (f : ε → ε') :
    t.Yields names (program.adapt f) wanted := by
  rw [Yields] at h
  rw [Yields, perform_adapt]
  generalize t.perform program = run at h ⊢
  rcases run with ⟨e | a, t'⟩
  · exact ⟨h.1, by simp [Except.mapError]⟩
  · exact ⟨h.1, fun b hb => by cases hb; exact h.2 _ rfl⟩

/-- The outcome of a program is wanted for what a success of it was wanted for. -/
lemma outcome {program : ExceptT Fault (StateM Tree) α} (h : t.Yields names program wanted) :
    t.Yields names (FileSystem.outcome program) fun r t' => ∀ a, r = .ok a → wanted a t' :=
  ⟨h.1, fun r hr => by
    rw [perform_outcome] at hr ⊢
    cases hr
    exact h.2⟩

end Yields

/-! ### Directories -/

variable {names : Text → Prop}

lemma perform_makeDirectory (path : Path) : t.perform (FileSystem.makeDirectory path) =
    match t.makeDirectory path with
    | .ok t' => (.ok (), t')
    | .error fault => (.error fault, t) :=
  rfl

lemma yields_makeDirectory (hfree : t.LinkFree) (path : Path) :
    t.Yields names (FileSystem.makeDirectory path) fun _ t' => t'.kind path = .ok .directory := by
  rw [Yields, perform_makeDirectory]
  rcases hmake : t.makeDirectory path with fault | t'
  · exact ⟨.refl hfree, by simp⟩
  · obtain ⟨hgrows, hkind⟩ := makeDirectory_spec hfree hmake
    exact ⟨hgrows, fun _ _ => hkind⟩

/-- A directory that stands in the way will do. -/
lemma yields_unlessKind (hfree : t.LinkFree) (fault : Fault) (path : Path) :
    t.Yields names (do
      if ← FileSystem.isKind .directory path then return () else throw fault)
      fun _ t' => t'.kind path = .ok .directory := by
  have hfound : t.Yields names (FileSystem.isKind .directory path) fun found t' =>
      found = true → t'.kind path = .ok .directory := by
    refine .of_asks hfree (asks_isKind .directory path) fun found hfound htrue => ?_
    obtain ⟨found', hrun, hiff⟩ := t.perform_isKind .directory path
    rw [hrun] at hfound
    cases hfound
    exact hiff.mp htrue
  refine hfound.bind fun found t' hgrows hfound => ?_
  cases found
  · exact .throw hgrows.linkFree fault
  · exact .pure hgrows.linkFree (hfound rfl)

/-- A directory that was made is there. -/
lemma yields_ensureDirectory (hfree : t.LinkFree) (path : Path) :
    t.Yields names (FileSystem.ensureDirectory path) fun _ t' =>
      t'.kind path = .ok .directory := by
  refine (yields_makeDirectory hfree path).outcome.bind fun r t' hgrows hr => ?_
  rcases r with fault | ⟨⟩
  · exact yields_unlessKind hgrows.linkFree fault path
  · exact .pure hgrows.linkFree (hr () rfl)

/-- The first directory of a chain that was made is there. -/
lemma yields_makeChain (hfree : t.LinkFree) (chain : List Path) :
    t.Yields names (FileSystem.makeChain chain) fun _ t' =>
      ∀ path ∈ chain.head?, t'.kind path = .ok .directory := by
  induction chain generalizing t with
  | nil => exact .pure hfree (by simp)
  | cons path above ih =>
      have hfirst : t.Yields names (FileSystem.makeChain (path :: above)) fun _ t' =>
          t'.kind path = .ok .directory := by
        refine (yields_makeDirectory hfree path).outcome.bind fun r t' hgrows hr => ?_
        rcases r with fault | ⟨⟩
        · cases fault
          case notFound =>
            exact (ih hgrows.linkFree).bind fun _ t'' hgrows' _ =>
              yields_ensureDirectory hgrows'.linkFree path
          all_goals exact yields_unlessKind hgrows.linkFree _ path
        · exact .pure hgrows.linkFree (hr () rfl)
      exact hfirst.imp (fun _ => id) fun _ t' _ hkind => by simpa using hkind

/-- **A path whose directories were made leads to a directory.** -/
lemma yields_makeDirectories (hfree : t.LinkFree) (path : Path) :
    t.Yields names (FileSystem.makeDirectories path) fun _ t' =>
      path ≠ [] → t'.kind path = .ok .directory := by
  refine (yields_makeChain hfree path.ancestors).imp (fun _ => id) fun _ t' _ hchain hne => ?_
  obtain ⟨above, habove⟩ := Path.exists_ancestors_eq_cons hne
  exact hchain path (by rw [habove]; rfl)

/-- Directories that are there are not made again. -/
lemma perform_makeDirectories_of_kind (hfree : t.LinkFree) {path : Path}
    (hkind : path ≠ [] → t.kind path = .ok .directory) :
    t.perform (FileSystem.makeDirectories path) = (.ok (), t) := by
  rcases eq_or_ne path [] with rfl | hne
  · rfl
  obtain ⟨above, habove⟩ := Path.exists_ancestors_eq_cons hne
  have hmake : t.perform (FileSystem.outcome (FileSystem.makeDirectory path)) =
      (.ok (.error .alreadyExists), t) := by
    rw [perform_outcome, perform_makeDirectory, makeDirectory_of_kind hfree (hkind hne)]
  obtain ⟨found, hfound, hiff⟩ := t.perform_isKind .directory path
  rw [FileSystem.makeDirectories, habove, FileSystem.makeChain, perform_bind, hmake]
  simp only
  rw [perform_bind, hfound, hiff.mpr (hkind hne)]
  rfl

/-! ### Files -/

lemma perform_writeText (path : Path) (text : Text) :
    t.perform (FileSystem.writeText path text) =
      match t.writeBytes path (utf8 text) with
      | .ok t' => (.ok (), t')
      | .error fault => (.error fault, t) :=
  rfl

/-- A file that was written has its text, and no file of another name has changed. -/
lemma yields_writeText (hfree : t.LinkFree) {path : Path} {name : Text} (hend : path.EndsIn name)
    (text : Text) : t.Yields (· = name) (FileSystem.writeText path text) fun _ t' =>
      t'.readBytes path = .ok (utf8 text) := by
  rw [Yields, perform_writeText]
  rcases hwrite : t.writeBytes path (utf8 text) with fault | t'
  · exact ⟨.refl hfree, by simp⟩
  · obtain ⟨hgrows, hread⟩ := writeBytes_spec hfree hend hwrite
    exact ⟨hgrows, fun _ _ => hread⟩

/-- A file that is there is written again. -/
lemma perform_writeText_of_readBytes {path : Path} {name : Text} (hend : path.EndsIn name)
    {held : List UInt8} (hread : t.readBytes path = .ok held) (text : Text) :
    (t.perform (FileSystem.writeText path text)).1 = .ok () := by
  obtain ⟨t', hwrite⟩ := exists_writeBytes hend hread (utf8 text)
  rw [perform_writeText, hwrite]

/-- A text is still there, unless its name is one of those that may be written. -/
lemma readText_mono (hfree : t.LinkFree) (hgrows : t.Grows names t') {path : Path} {name : Text}
    (hend : path.EndsIn name) (hname : ¬ names name) {text : Text}
    (hread : t.readText path = .ok text) : t'.readText path = .ok text := by
  obtain ⟨bytes, hbytes, htext⟩ := readText_eq_ok_iff.mp hread
  exact readText_eq_ok_iff.mpr ⟨bytes, readBytes_mono hfree hgrows hend hname hbytes, htext⟩

end Tree

end ContractScaffold
