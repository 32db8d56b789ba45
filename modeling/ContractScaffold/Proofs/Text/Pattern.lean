/-
Patterns of characters and the search for their matches in a text. A pattern can match in several
ways at one place: the preferred one counts, and the next match is searched for behind it.

* `Pattern.ends`: the places where a match can end, the preferred ones first.
* `Pattern.search`: the matches in a text, from left to right.
* `Pattern.staysOnLine`, `Pattern.ends_append`: where no part of a pattern admits a line feed, it
  matches on a line as if there were no other lines.
* `Pattern.search_append_break`: the matches in a text are then those in its lines.
* `Pattern.first`: what the preferred one of the ways to go on gives. `Pattern.first_several` is
  about repetitions of which all that lead on give the same, `Pattern.first_several_of_forced` about
  those that what follows leaves one way for.
-/
import ContractScaffold.Proofs.Text.Lines

namespace ContractScaffold

/-! ### Patterns -/

/-- A pattern of characters. A repetition tries more characters before fewer if it is greedy, and
else fewer before more. An optional part is tried before it is left out. -/
inductive Pattern where
  | lineStart
  | lineEnd
  | char (admits : Char → Bool)
  | several (admits : Char → Bool) (greedy : Bool)
  | optional (p : Pattern)
  | group (p : Pattern)
  | both (p q : Pattern)

namespace Pattern

/-- One pattern and then another. -/
instance : Append Pattern := ⟨both⟩

/-- A place in a text, and how it was reached: whether a line starts there, the text behind it, and
what the groups of a pattern matched so far, in the order of their ends. -/
structure Position where
  startsLine : Bool
  rest : Text
  groups : List Text

/-- The places behind no character, one, two and so on, as long as they are of a class. -/
def repeated (admits : Char → Bool) (greedy : Bool) (groups : List Text) :
    Bool → Text → List Position
  | startsLine, [] => [⟨startsLine, [], groups⟩]
  | startsLine, c :: t =>
    let further := if admits c then repeated admits greedy groups (c == '\n') t else []
    if greedy then further ++ [⟨startsLine, c :: t, groups⟩]
    else ⟨startsLine, c :: t, groups⟩ :: further

/-- The place where a group ends that began at another one. -/
def Position.closing (k start : Position) : Position :=
  { k with groups := k.groups ++ [start.rest.take (start.rest.length - k.rest.length)] }

/-- The places where a match that begins at some place can end, the preferred ones first. -/
def ends : Pattern → Position → List Position
  | lineStart, k => if k.startsLine then [k] else []
  | lineEnd, k => if k.rest.head?.all (· == '\n') then [k] else []
  | char admits, ⟨_, c :: t, groups⟩ => if admits c then [⟨c == '\n', t, groups⟩] else []
  | char _, ⟨_, [], _⟩ => []
  | several admits greedy, k => repeated admits greedy k.groups k.startsLine k.rest
  | optional p, k => p.ends k ++ [k]
  | group p, k => (p.ends k).map fun e => e.closing k
  | both p q, k => (p.ends k).flatMap q.ends

/-- Where the match at some place ends, unless it is empty. -/
def matchAt? (p : Pattern) (startsLine : Bool) (t : Text) : Option Position :=
  (p.ends ⟨startsLine, t, []⟩).head?.filter fun e => e.rest.length < t.length

/-- The matches in a text behind some of its characters. -/
def searchFrom (p : Pattern) : Nat → Bool → Text → List (List Text)
  | _, _, [] => []
  | skip + 1, _, c :: t => p.searchFrom skip (c == '\n') t
  | 0, startsLine, c :: t =>
    match p.matchAt? startsLine (c :: t) with
    | some e => e.groups :: p.searchFrom (t.length - e.rest.length) (c == '\n') t
    | none => p.searchFrom 0 (c == '\n') t

/-- The matches in a text from left to right, each by what its groups matched. The first one begins
as early as possible, and so does every other one among those that begin behind the last. -/
def search (p : Pattern) (t : Text) : List (List Text) :=
  p.searchFrom 0 true t

variable {p q : Pattern} {admits : Char → Bool} {greedy : Bool} {k e : Position}

/-! ### Lines -/

/-- No part of the pattern admits a line feed. -/
def staysOnLine : Pattern → Bool
  | lineStart => true
  | lineEnd => true
  | char admits => !admits '\n'
  | several admits _ => !admits '\n'
  | optional p => p.staysOnLine
  | group p => p.staysOnLine
  | both p q => p.staysOnLine && q.staysOnLine

/-- The same place where more text follows. -/
def Position.before (k : Position) (rear : Text) : Position :=
  { k with rest := k.rest ++ rear }

/-- Between a place and one behind a repetition there are characters of its class only. -/
lemma exists_of_mem_repeated {groups : List Text} {startsLine : Bool} {t : Text}
    (h : e ∈ repeated admits greedy groups startsLine t) :
    ∃ u, t = u ++ e.rest ∧ (∀ c ∈ u, admits c = true) ∧ e.groups = groups := by
  induction t generalizing startsLine with
  | nil =>
      obtain rfl := List.mem_singleton.mp h
      exact ⟨[], rfl, by simp, rfl⟩
  | cons c t ih =>
      have hcases : (admits c = true ∧ e ∈ repeated admits greedy groups (c == '\n') t) ∨
          e = ⟨startsLine, c :: t, groups⟩ := by
        rw [repeated] at h
        split_ifs at h <;> simp_all [or_comm]
      rcases hcases with ⟨hc, h⟩ | rfl
      · obtain ⟨u, rfl, hu, hgroups⟩ := ih h
        exact ⟨c :: u, rfl, by simpa [hc] using hu, hgroups⟩
      · exact ⟨[], rfl, by simp, rfl⟩

/-- Behind a character of a class there is one way to go on. -/
lemma exists_of_mem_ends_char (h : e ∈ (char admits).ends k) :
    ∃ c t, k.rest = c :: t ∧ admits c = true ∧ e = ⟨c == '\n', t, k.groups⟩ := by
  obtain ⟨startsLine, _ | ⟨c, t⟩, groups⟩ := k
  · simp [ends] at h
  · obtain ⟨hc, rfl⟩ : admits c = true ∧ e = ⟨c == '\n', t, groups⟩ := by simpa [ends] using h
    exact ⟨c, t, rfl, hc, rfl⟩

/-- A match goes forward in the text. -/
lemma rest_suffix_of_mem_ends (h : e ∈ p.ends k) : e.rest <:+ k.rest := by
  induction p generalizing k e with
  | lineStart => simp_all [ends]
  | lineEnd => simp_all [ends]
  | char admits =>
      obtain ⟨c, t, hrest, -, rfl⟩ := exists_of_mem_ends_char h
      exact hrest ▸ List.suffix_cons c t
  | several admits greedy =>
      obtain ⟨u, hu, -⟩ := exists_of_mem_repeated h
      exact ⟨u, hu.symm⟩
  | optional p ih =>
      rcases List.mem_append.mp h with h | h
      · exact ih h
      · exact (List.mem_singleton.mp h) ▸ List.suffix_rfl
  | group p ih =>
      obtain ⟨m, hm, rfl⟩ := List.mem_map.mp h
      exact ih (e := m) hm
  | both p q ihp ihq =>
      obtain ⟨m, hm, he⟩ := List.mem_flatMap.mp h
      exact (ihq he).trans (ihp hm)

/-- Some character is part of every match. -/
def consumes : Pattern → Bool
  | char _ => true
  | group p => p.consumes
  | both p q => p.consumes || q.consumes
  | lineStart | lineEnd | several _ _ | optional _ => false

lemma length_rest_lt (hp : p.consumes = true) (h : e ∈ p.ends k) :
    e.rest.length < k.rest.length := by
  induction p generalizing k e with
  | lineStart | lineEnd | several _ _ | optional _ => simp [consumes] at hp
  | char admits =>
      obtain ⟨c, t, hrest, -, rfl⟩ := exists_of_mem_ends_char h
      exact hrest ▸ Nat.lt_succ_self _
  | group p ih =>
      obtain ⟨m, hm, rfl⟩ := List.mem_map.mp h
      exact ih (e := m) hp hm
  | both p q ihp ihq =>
      obtain ⟨m, hm, he⟩ := List.mem_flatMap.mp h
      rcases Bool.or_eq_true _ _ |>.mp hp with hp | hq
      · exact (rest_suffix_of_mem_ends he).length_le.trans_lt (ihp hp hm)
      · exact (ihq hq he).trans_le (rest_suffix_of_mem_ends hm).length_le

section Line

variable {rear : Text}

lemma repeated_append (hstays : admits '\n' = false) (hrear : ∀ c ∈ rear.head?, c = '\n')
    (groups : List Text) (startsLine : Bool) (l : Text) :
    repeated admits greedy groups startsLine (l ++ rear) =
      (repeated admits greedy groups startsLine l).map (·.before rear) := by
  induction l generalizing startsLine with
  | nil =>
      cases rear with
      | nil => rfl
      | cons c rear =>
          obtain rfl : c = '\n' := hrear c rfl
          cases greedy <;> simp [repeated, hstays, Position.before]
  | cons c l ih =>
      rw [List.cons_append, repeated, repeated, ih]
      split_ifs <;> simp [Position.before]

/-- **On a line, a pattern that stays on lines does not see the lines behind it.** -/
lemma ends_append (hp : p.staysOnLine = true) (hrear : ∀ c ∈ rear.head?, c = '\n')
    (hk : '\n' ∉ k.rest) : p.ends (k.before rear) = (p.ends k).map (·.before rear) := by
  induction p generalizing k with
  | lineStart =>
      obtain ⟨startsLine, t, groups⟩ := k
      cases startsLine <;> rfl
  | lineEnd =>
      obtain ⟨startsLine, _ | ⟨c, t⟩, groups⟩ := k
      · have hend : rear.head?.all (· == '\n') = true :=
          (Option.all_eq_true _ _).mpr fun c hc => beq_iff_eq.mpr (hrear c hc)
        simp [ends, Position.before, hend]
      · have hc : c ≠ '\n' := fun h => hk (by simp [h])
        simp [ends, Position.before, hc]
  | char admits =>
      obtain ⟨startsLine, _ | ⟨c, t⟩, groups⟩ := k
      · cases rear with
        | nil => rfl
        | cons c rear =>
            obtain rfl : c = '\n' := hrear c rfl
            have hstays : admits '\n' = false := by simpa [staysOnLine] using hp
            simp [ends, Position.before, hstays]
      · simp only [ends, Position.before, List.cons_append]
        split_ifs <;> rfl
  | several admits greedy =>
      have hstays : admits '\n' = false := by simpa [staysOnLine] using hp
      exact repeated_append hstays hrear k.groups k.startsLine k.rest
  | optional p ih => rw [ends, ih hp hk, ends, List.map_append, List.map_singleton]
  | group p ih =>
      rw [ends, ih hp hk, ends, List.map_map, List.map_map]
      refine List.map_congr_left fun e _ => ?_
      have htake : (k.rest ++ rear).take ((k.rest ++ rear).length - (e.rest ++ rear).length) =
          k.rest.take (k.rest.length - e.rest.length) := by
        rw [List.length_append, List.length_append, Nat.add_sub_add_right,
          List.take_append_of_le_length (Nat.sub_le _ _)]
      simp only [Function.comp_apply, Position.before, Position.closing, htake]
  | both p q ihp ihq =>
      obtain ⟨hp, hq⟩ : p.staysOnLine = true ∧ q.staysOnLine = true := by
        simpa [staysOnLine] using hp
      rw [ends, ihp hp hk, ends, List.flatMap_map, List.map_flatMap]
      exact List.flatMap_congr fun e he =>
        ihq hq fun hc => hk ((rest_suffix_of_mem_ends he).subset hc)

variable {l : Text}

lemma matchAt?_append (hp : p.staysOnLine = true) (hrear : ∀ c ∈ rear.head?, c = '\n')
    (hl : '\n' ∉ l) (startsLine : Bool) :
    p.matchAt? startsLine (l ++ rear) = (p.matchAt? startsLine l).map (·.before rear) := by
  have hends : p.ends ⟨startsLine, l ++ rear, []⟩ =
      (p.ends ⟨startsLine, l, []⟩).map (·.before rear) := ends_append (k := ⟨_, l, _⟩) hp hrear hl
  rw [matchAt?, matchAt?, hends, List.head?_map]
  cases (p.ends ⟨startsLine, l, []⟩).head? with
  | none => rfl
  | some e => by_cases h : e.rest.length < l.length <;> simp [Option.filter, Position.before, h]

/-- Behind a line, the search begins anew. -/
lemma searchFrom_append_break (hp : p.staysOnLine = true) (hl : '\n' ∉ l) (b : Text)
    (startsLine : Bool) {skip : ℕ} (hskip : skip ≤ l.length) :
    p.searchFrom skip startsLine (l ++ '\n' :: b) =
      p.searchFrom skip startsLine l ++ p.search b := by
  have hfeed : ∀ c ∈ ('\n' :: b : Text).head?, c = '\n' := by simp
  induction l generalizing skip startsLine with
  | nil =>
      obtain rfl : skip = 0 := Nat.le_zero.mp hskip
      have hnone : p.matchAt? startsLine ('\n' :: b) = none := by
        have h := matchAt?_append (l := []) hp hfeed (by simp) startsLine
        rw [List.nil_append] at h
        rw [h, Option.map_eq_none_iff, matchAt?]
        simp
      have hnext : p.searchFrom 0 startsLine ('\n' :: b) = p.search b := by
        rw [searchFrom, hnone]
        rfl
      exact hnext
  | cons c l ih =>
      have hrest : '\n' ∉ l := fun h => hl (List.mem_cons_of_mem c h)
      cases skip with
      | succ skip => exact ih hrest (c == '\n') (Nat.le_of_succ_le_succ hskip)
      | zero =>
          have hmatch := matchAt?_append hp hfeed hl startsLine
          rw [List.cons_append] at hmatch ⊢
          rw [searchFrom, searchFrom, hmatch]
          cases p.matchAt? startsLine (c :: l) with
          | none => exact ih hrest (c == '\n') (Nat.zero_le _)
          | some e =>
              have hskipped : (l ++ '\n' :: b).length - (e.rest ++ '\n' :: b).length =
                  l.length - e.rest.length := by
                rw [List.length_append, List.length_append, Nat.add_sub_add_right]
              simp only [Option.map_some, Position.before, hskipped, List.cons_append,
                ih hrest (c == '\n') (Nat.sub_le _ _)]

/-- **Search is line by line.** The matches of a pattern that stays on lines, in a text that a line
feed cuts into two, are those in the first and then those in the second. -/
lemma search_append_break (hp : p.staysOnLine = true) (a b : Text) :
    p.search (a ++ '\n' :: b) = p.search a ++ p.search b := by
  induction a using Text.line_induction with
  | last a ha => exact searchFrom_append_break hp ha b true (Nat.zero_le _)
  | line u v hu ih =>
      have hline : ∀ t, p.search (u ++ '\n' :: t) = p.search u ++ p.search t := fun t =>
        searchFrom_append_break hp hu t true (Nat.zero_le _)
      rw [List.append_assoc, List.cons_append, hline, ih, hline, List.append_assoc]

/-- Inside a line there are no matches of a pattern that matches at starts of lines only. -/
lemma searchFrom_inside (hp : ∀ t, p.ends ⟨false, t, []⟩ = []) {t : Text} (ht : '\n' ∉ t)
    (skip : ℕ) : p.searchFrom skip false t = [] := by
  induction t generalizing skip with
  | nil => cases skip <;> rfl
  | cons c t ih =>
      have hc : (c == '\n') = false := by simpa using fun h : c = '\n' => ht (by simp [h])
      have hrest : '\n' ∉ t := fun h => ht (List.mem_cons_of_mem c h)
      cases skip with
      | zero =>
          have hnone : p.matchAt? false (c :: t) = none := by
            rw [matchAt?, hp]
            rfl
          rw [searchFrom, hnone, hc]
          exact ih hrest 0
      | succ skip =>
          rw [searchFrom, hc]
          exact ih hrest skip

/-- On a line there is one match of such a pattern, if any. -/
lemma search_line (hp : ∀ t, p.ends ⟨false, t, []⟩ = []) (hconsumes : p.consumes = true)
    (hl : '\n' ∉ l) :
    p.search l = ((p.ends ⟨true, l, []⟩).head?.map Position.groups).toList := by
  have hmatch : p.matchAt? true l = (p.ends ⟨true, l, []⟩).head? := by
    rw [matchAt?]
    cases hhead : (p.ends ⟨true, l, []⟩).head? with
    | none => rfl
    | some e =>
        have hlength := length_rest_lt hconsumes (List.mem_of_mem_head? hhead)
        simp only [Option.filter, decide_eq_true hlength, if_true]
  rw [← hmatch]
  cases l with
  | nil =>
      have hnone : p.matchAt? true [] = none := by simp [matchAt?]
      rw [hnone]
      rfl
  | cons c l =>
      have hc : (c == '\n') = false := by simpa using fun h : c = '\n' => hl (by simp [h])
      have hrest : '\n' ∉ l := fun h => hl (List.mem_cons_of_mem c h)
      rw [search, searchFrom, hc]
      cases p.matchAt? true (c :: l) <;> simp [searchFrom_inside hp hrest]

end Line

/-! ### What the preferred match gives -/

section First

variable {α : Type*} {f : Position → Option α}

/-- A group matched the text between the two places. -/
lemma closing_eq (startsLine startsLine' : Bool) (u v : Text) (groups groups' : List Text) :
    Position.closing ⟨startsLine, v, groups⟩ ⟨startsLine', u ++ v, groups'⟩ =
      ⟨startsLine, v, groups ++ [u]⟩ := by
  rw [Position.closing, List.length_append, Nat.add_sub_cancel, List.take_left]

/-- What is given by the first place where the pattern can end that gives something. -/
def first (p : Pattern) (f : Position → Option α) (k : Position) : Option α :=
  (p.ends k).findSome? f

lemma first_some (p : Pattern) (g : Position → α) (k : Position) :
    p.first (fun e => some (g e)) k = (p.ends k).head?.map g := by
  rw [first]
  cases p.ends k <;> rfl

lemma first_append (p q : Pattern) (f : Position → Option α) (k : Position) :
    (p ++ q).first f k = p.first (q.first f) k := by
  have hends : (p ++ q).ends k = (p.ends k).flatMap q.ends := rfl
  rw [first, hends, first]
  induction p.ends k with
  | nil => rfl
  | cons e es ih =>
      rw [List.flatMap_cons, List.findSome?_append, ih, List.findSome?_cons, first]
      cases (q.ends e).findSome? f <;> rfl

lemma first_optional (p : Pattern) (f : Position → Option α) (k : Position) :
    p.optional.first f k = (p.first f k).or (f k) := by
  rw [first, ends, List.findSome?_append, List.findSome?_singleton, first]

lemma first_group (p : Pattern) (f : Position → Option α) (k : Position) :
    p.group.first f k = p.first (fun e => f (e.closing k)) k := by
  rw [first, ends, List.findSome?_map]
  rfl

lemma first_char_cons (c : Char) (startsLine : Bool) (t : Text) (groups : List Text) :
    (char admits).first f ⟨startsLine, c :: t, groups⟩ =
      if admits c then f ⟨c == '\n', t, groups⟩ else none := by
  rw [first, ends]
  split_ifs with hc
  · exact List.findSome?_singleton
  · rfl

variable {groups : List Text} {X : Option α} {t : Text}

/-- A repetition can stop behind any characters of its class. -/
lemma exists_mem_repeated {u : Text} (hu : ∀ c ∈ u, admits c = true) (startsLine : Bool)
    (v : Text) : ∃ startsLine', ⟨startsLine', v, groups⟩ ∈
      repeated admits greedy groups startsLine (u ++ v) := by
  induction u generalizing startsLine with
  | nil =>
      refine ⟨startsLine, ?_⟩
      cases v with
      | nil => simp [repeated]
      | cons c v => cases greedy <;> simp [repeated]
  | cons c u ih =>
      obtain ⟨hc, hu⟩ := List.forall_mem_cons.mp hu
      obtain ⟨startsLine', he⟩ := ih hu (c == '\n')
      refine ⟨startsLine', ?_⟩
      cases greedy <;> simp [repeated, hc, he]

/-- Where all repetitions that lead on give the same, so does the preferred one. -/
lemma first_several {u v : Text} (ht : t = u ++ v) (hu : ∀ c ∈ u, admits c = true)
    (hgiven : ∀ startsLine, f ⟨startsLine, v, groups⟩ = X)
    (hagree : ∀ startsLine u' v', t = u' ++ v' → (∀ c ∈ u', admits c = true) →
      f ⟨startsLine, v', groups⟩ = none ∨ f ⟨startsLine, v', groups⟩ = X) (startsLine : Bool) :
    (several admits greedy).first f ⟨startsLine, t, groups⟩ = X := by
  have hends : ∀ e ∈ repeated admits greedy groups startsLine t, f e = none ∨ f e = X := by
    rintro ⟨_, v', _⟩ he
    obtain ⟨u', hsplit, hu', rfl⟩ := exists_of_mem_repeated he
    exact hagree _ u' v' hsplit hu'
  obtain ⟨startsLine', he⟩ : ∃ startsLine', ⟨startsLine', v, groups⟩ ∈
      repeated admits greedy groups startsLine t := ht ▸ exists_mem_repeated hu startsLine v
  have hfirst : (several admits greedy).first f ⟨startsLine, t, groups⟩ =
      (repeated admits greedy groups startsLine t).findSome? f := rfl
  rw [hfirst]
  rcases hfound : (repeated admits greedy groups startsLine t).findSome? f with _ | x
  · exact (List.findSome?_eq_none_iff.mp hfound _ he).symm.trans (hgiven startsLine')
  · obtain ⟨e, he, hx⟩ := List.exists_of_findSome?_eq_some hfound
    exact hx ▸ (hends e he).resolve_left (by simp [hx])

/-- Where nothing leads on from a character of its class, a repetition goes as far as it can. -/
lemma first_several_of_forced
    (hforced : ∀ startsLine c u, admits c = true → f ⟨startsLine, c :: u, groups⟩ = none)
    (hgiven : ∀ startsLine, f ⟨startsLine, t.dropWhile admits, groups⟩ = X) (startsLine : Bool) :
    (several admits greedy).first f ⟨startsLine, t, groups⟩ = X := by
  refine first_several List.takeWhile_append_dropWhile.symm
    (fun c hc => List.mem_takeWhile_imp hc) hgiven (fun s u v hsplit hu => ?_) startsLine
  subst hsplit
  cases hv : v with
  | nil =>
      rw [hv, List.append_nil, List.dropWhile_eq_nil_iff.mpr hu] at hgiven
      exact Or.inr (hgiven s)
  | cons c w =>
      by_cases hc : admits c = true
      · exact Or.inl (hforced s c w hc)
      · rw [hv, Text.dropWhile_until hu (by simpa using hc)] at hgiven
        exact Or.inr (hgiven s)

end First

end Pattern

end ContractScaffold
