/-
The lines of a text: how they are cut, how they come back from a text that was
put together from lines, and what blank space between and around them changes.

* `line_induction`: induction on the lines of a text.
* `mem_lines`: a line holds no line feed and comes from the text.
* `IsLine`, `lines_unlines`: lines put together are the lines of the text that
  they make.
* `unlines_append`, `joinWith_break`: lines put together, in groups and at an indentation;
  `splitOn_unlines`: texts of several lines; `dropEndWhile_unlines`: with blank lines at the end.
* `lines_append_break`: a line feed cuts a text into two, each with its own
  lines; only the end of the first may lose a carriage return.
* `filledLines`: the trimmed lines that are not blank. `filledLines_append_break`
  makes it a homomorphism, and `filledLines_trim`, `filledLines_unlines` say that
  neither blank space around a text nor blank lines count.
* `filterMap_lines`: what reads lines one by one, and nothing from an empty line,
  reads the filled lines.
-/
import ContractScaffold.Text.Lines
import ContractScaffold.Proofs.Text.Trim

namespace ContractScaffold

namespace Text

variable {t l : Text}

/-! ### Line ends -/

/-- A text is what dropping a carriage return leaves and, at most, that
carriage return. -/
lemma exists_dropReturn_append (t : Text) :
    ∃ r : Text, t = dropReturn t ++ r ∧ (r = [] ∨ r = ['\r']) := by
  rw [dropReturn]
  split_ifs with h
  · obtain ⟨hne, hlast⟩ := List.getLast?_eq_some_iff.mp h
    exact ⟨['\r'], by simp [hlast], Or.inr rfl⟩
  · exact ⟨[], by simp, Or.inl rfl⟩

lemma mem_of_mem_dropReturn {c : Char} (h : c ∈ dropReturn t) : c ∈ t := by
  obtain ⟨r, ht, -⟩ := exists_dropReturn_append t
  rw [ht]
  exact List.mem_append_left r h

@[simp] lemma trim_dropReturn (t : Text) : trim (dropReturn t) = trim t := by
  obtain ⟨r, ht, hr⟩ := exists_dropReturn_append t
  conv_rhs => rw [ht]
  rcases hr with rfl | rfl
  · rw [List.append_nil]
  · exact (trim_append_of_blank (by simp [isBlank_return]) _).symm

/-! ### Cutting a text into lines -/

/-- Induction on the lines of a text: one line, and one with others behind it. -/
@[elab_as_elim]
lemma line_induction {motive : Text → Prop} (last : ∀ l, '\n' ∉ l → motive l)
    (line : ∀ l u, '\n' ∉ l → motive u → motive (l ++ '\n' :: u)) (t : Text) : motive t := by
  by_cases ht : '\n' ∈ t
  · obtain ⟨l, u, rfl, hl⟩ := List.eq_append_cons_of_mem ht
    exact line l u hl (line_induction last line u)
  · exact last t ht
  termination_by t.length
  decreasing_by simp_all; omega

lemma linesOfPieces_cons {ps : List Text} (p : Text) (hne : ps ≠ []) :
    linesOfPieces (p :: ps) = dropReturn p :: linesOfPieces ps := by
  cases ps with
  | nil => exact absurd rfl hne
  | cons q ps => rfl

lemma linesOfPieces_append {qs : List Text} (ps : List Text) (hne : qs ≠ []) :
    linesOfPieces (ps ++ qs) = ps.map dropReturn ++ linesOfPieces qs := by
  induction ps with
  | nil => rfl
  | cons p ps ih => rw [List.cons_append, linesOfPieces_cons p (by simp [hne]), ih]; rfl

/-- A line comes from one of the pieces. -/
lemma mem_linesOfPieces {c : Char} : ∀ {ps : List Text}, l ∈ linesOfPieces ps → c ∈ l →
    ∃ p ∈ ps, c ∈ p
  | [p], hl, hc => by
      by_cases hp : p = []
      · simp [linesOfPieces, hp] at hl
      · simp only [linesOfPieces, List.isEmpty_iff, hp, if_false, List.mem_singleton] at hl
        exact ⟨p, by simp, hl ▸ hc⟩
  | p :: q :: ps, hl, hc => by
      rcases List.mem_cons.mp hl with rfl | hl
      · exact ⟨p, by simp, mem_of_mem_dropReturn hc⟩
      · obtain ⟨r, hr, hcr⟩ := mem_linesOfPieces hl hc
        exact ⟨r, List.mem_cons_of_mem _ hr, hcr⟩

/-- The characters of a line are characters of the text other than line feeds. -/
lemma mem_lines {c : Char} (hl : l ∈ lines t) (hc : c ∈ l) : c ∈ t ∧ c ≠ '\n' := by
  obtain ⟨p, hp, hcp⟩ := mem_linesOfPieces hl hc
  exact (mem_splitOnP hp hcp).imp_right fun h => by simpa using h

lemma newline_notMem_of_mem_lines (hl : l ∈ lines t) : '\n' ∉ l :=
  fun hc => (mem_lines hl hc).2 rfl

/-- A line feed cuts a text: the lines before it all lose their carriage return,
and the lines after it are those of the rest. -/
lemma lines_append_break (s t : Text) :
    lines (s ++ '\n' :: t) = (s.splitOn '\n').map dropReturn ++ lines t := by
  rw [lines, List.splitOn_append_cons_self, linesOfPieces_append _ (List.splitOn_ne_nil _ _), lines]

/-- The pieces of a text but the last give its lines but the last, and the last
piece gives one where it is not empty. -/
lemma exists_lines_eq (t : Text) : ∃ (ps : List Text) (p : Text), t.splitOn '\n' = ps ++ [p] ∧
    lines t = ps.map dropReturn ++ linesOfPieces [p] := by
  obtain ⟨ps, p, hsplit⟩ := List.eq_nil_or_concat' (t.splitOn '\n') |>.resolve_left
    (List.splitOn_ne_nil _ _)
  exact ⟨ps, p, hsplit, by rw [lines, hsplit, linesOfPieces_append ps (by simp)]⟩

/-- A line as it is put into a text: not empty, without a line feed, and without
a carriage return at its end. -/
structure IsLine (l : Text) : Prop where
  ne_nil : l ≠ []
  line : '\n' ∉ l
  no_return : l.getLast? ≠ some '\r'

/-- A tidy text is a line where it is not empty. -/
lemma isLine_of_tidy (h : Tidy l) (hne : l ≠ []) : IsLine l := by
  refine ⟨hne, h.line, fun hlast => ?_⟩
  exact absurd (h.last '\r' hlast) (by decide)

/-- A tidy text behind a line makes a longer line. -/
lemma IsLine.append (hl : IsLine l) (ht : Tidy t) : IsLine (l ++ t) := by
  by_cases hne : t = []
  · rwa [hne, List.append_nil]
  · refine ⟨by simp [hne], by simp [hl.line, ht.line], ?_⟩
    rw [List.getLast?_append_of_ne_nil _ hne]
    exact (isLine_of_tidy ht hne).no_return

lemma dropReturn_of_isLine (h : IsLine l) : dropReturn l = l := by
  rw [dropReturn, if_neg h.no_return]

/-- Lines put together are the lines of the text that they make. -/
lemma lines_unlines {ls : List Text} (h : ∀ l ∈ ls, IsLine l) : lines (unlines ls) = ls := by
  have hpieces : ∀ {ls : List Text}, (∀ l ∈ ls, IsLine l) → linesOfPieces ls = ls := by
    intro ls hls
    induction ls with
    | nil => rfl
    | cons l ls ih =>
        have hl := hls l (by simp)
        cases ls with
        | nil => simp [linesOfPieces, hl.ne_nil]
        | cons m ls =>
            rw [linesOfPieces_cons l (by simp), dropReturn_of_isLine hl,
              ih fun k hk => hls k (List.mem_cons_of_mem _ hk)]
  by_cases hls : ls = []
  · subst hls
    rfl
  · rw [lines, unlines, joinWith, List.splitOn_intercalate '\n' (fun l hl => (h l hl).line) hls,
      hpieces h]

lemma unlines_cons {ls : List Text} (l : Text) (hls : ls ≠ []) :
    unlines (l :: ls) = l ++ '\n' :: unlines ls := by
  rw [unlines, joinWith, List.intercalate_cons_of_ne_nil hls, List.append_assoc]
  rfl

/-- A line feed stands between two groups of lines. -/
lemma unlines_append {ls ms : List Text} (hls : ls ≠ []) (hms : ms ≠ []) :
    unlines (ls ++ ms) = unlines ls ++ '\n' :: unlines ms := by
  obtain ⟨l, ls, rfl⟩ := List.exists_cons_of_ne_nil hls
  obtain ⟨m, ms, rfl⟩ := List.exists_cons_of_ne_nil hms
  simp [unlines, joinWith_cons]

/-- Texts with a line feed between them have the lines of each. -/
lemma splitOn_unlines {ls : List Text} (hls : ls ≠ []) :
    (unlines ls).splitOn '\n' = ls.flatMap fun l => l.splitOn '\n' := by
  induction ls with
  | nil => exact absurd rfl hls
  | cons l ls ih =>
      by_cases hnil : ls = []
      · simp [hnil, unlines, joinWith]
      · rw [unlines_cons l hnil, List.splitOn_append_cons_self, ih hnil, List.flatMap_cons]

/-- Texts joined by a line feed and an indentation are lines. -/
lemma joinWith_break (indent l : Text) (ls : List Text) :
    joinWith ('\n' :: indent) (l :: ls) = unlines (l :: ls.map (indent ++ ·)) := by
  rw [joinWith_cons, unlines, joinWith_cons, List.flatMap_map]
  rfl

/-- What stands behind the last line stands behind the text. -/
lemma unlines_concat_append (ls : List Text) (l r : Text) :
    unlines (ls ++ [l ++ r]) = unlines (ls ++ [l]) ++ r := by
  induction ls with
  | nil => simp [unlines, joinWith]
  | cons k ls ih =>
      rw [List.cons_append, List.cons_append, unlines_cons k (by simp), unlines_cons k (by simp),
        ih, List.append_assoc, List.cons_append]

/-- An empty last line leaves a line feed at the end. -/
lemma unlines_concat_nil (ks : List Text) (k : Text) :
    unlines (ks ++ [k] ++ [[]]) = unlines (ks ++ [k]) ++ ['\n'] := by
  induction ks with
  | nil => simp [unlines, joinWith]
  | cons j ks ih =>
      rw [List.cons_append, List.cons_append, unlines_cons j (by simp), ih,
        unlines_cons j (by simp), List.append_assoc, List.cons_append]

/-- Lines of blank space make up blank space. -/
lemma isBlank_of_mem_unlines {ls : List Text} (hls : ∀ m ∈ ls, ∀ c ∈ m, isBlank c = true) :
    ∀ c ∈ unlines ls, isBlank c = true := by
  intro c hc
  rcases mem_joinWith hc with hc | ⟨m, hm, hc⟩
  · rw [List.mem_singleton.mp hc]
    exact isBlank_newline
  · exact hls m hm c hc

/-- Blank lines behind another one go with the blank space at its end. -/
lemma dropEndWhile_unlines (l : Text) {rear : List Text}
    (hrear : ∀ m ∈ rear, ∀ c ∈ m, isBlank c = true) :
    dropEndWhile isBlank (unlines (l :: rear)) = dropEndWhile isBlank l := by
  by_cases hnil : rear = []
  · simp [hnil, unlines, joinWith]
  · rw [unlines_cons l hnil]
    exact dropEndWhile_append_of_all
      (List.forall_mem_cons.mpr ⟨isBlank_newline, isBlank_of_mem_unlines hrear⟩) l

/-! ### Filled lines -/

/-- The trimmed lines of a text that are not empty. -/
def filledLines (t : Text) : List Text :=
  ((t.splitOn '\n').map trim).filter fun l => !l.isEmpty

@[simp] lemma filledLines_nil : filledLines [] = [] := rfl

/-- A line feed cuts the filled lines. -/
lemma filledLines_append_break (s t : Text) :
    filledLines (s ++ '\n' :: t) = filledLines s ++ filledLines t := by
  rw [filledLines, List.splitOn_append_cons_self, List.map_append, List.filter_append,
    filledLines, filledLines]

/-- A text on one line has itself as its filled line, unless it is blank. -/
lemma filledLines_of_line (h : '\n' ∉ t) :
    filledLines t = [trim t].filter fun l => !l.isEmpty := by
  rw [filledLines, List.splitOn_eq_singleton h, List.map_singleton]

/-- A blank character in front of a text does not count. -/
lemma filledLines_blank_cons {c : Char} (hc : isBlank c = true) (t : Text) :
    filledLines (c :: t) = filledLines t := by
  have hline : ∀ {u : Text}, '\n' ∉ u → c ≠ '\n' → filledLines (c :: u) = filledLines u := by
    intro u hu hcn
    rw [filledLines_of_line hu, filledLines_of_line (by simp [hu, Ne.symm hcn])]
    have htrim : trim (c :: u) = trim u := by
      simpa [trim] using strip_surrounded (p := isBlank) (a := [c]) (b := []) (by simp [hc])
        (by simp) u
    rw [htrim]
  by_cases hcn : c = '\n'
  · subst hcn
    exact filledLines_append_break [] t
  · by_cases ht : '\n' ∈ t
    · obtain ⟨u, v, rfl, hu⟩ := List.eq_append_cons_of_mem ht
      rw [← List.cons_append, filledLines_append_break, hline hu hcn, ← filledLines_append_break]
    · exact hline ht hcn

/-- A blank character behind a text does not count. -/
lemma filledLines_append_blank {c : Char} (hc : isBlank c = true) (t : Text) :
    filledLines (t ++ [c]) = filledLines t := by
  by_cases hcn : c = '\n'
  · subst hcn
    rw [filledLines_append_break, filledLines_nil, List.append_nil]
  · by_cases ht : '\n' ∈ t
    · -- the character belongs to the last line, so the first line is put aside
      obtain ⟨u, v, rfl, -⟩ := List.eq_append_cons_of_mem ht
      rw [List.append_assoc, List.cons_append, filledLines_append_break,
        filledLines_append_blank hc v, ← filledLines_append_break]
    · have hlast : '\n' ∉ t ++ [c] := by simp [ht, Ne.symm hcn]
      rw [filledLines_of_line ht, filledLines_of_line hlast, trim_append_of_blank (by simp [hc])]
  termination_by t.length
  decreasing_by simp_all; omega

/-- Blank space around a text does not count. -/
@[simp] lemma filledLines_trim (t : Text) : filledLines (trim t) = filledLines t :=
  apply_trim filledLines (fun _ t hc => filledLines_blank_cons hc t)
    (fun _ t hc => filledLines_append_blank hc t) t

/-- Lines put together have the filled lines among them. -/
lemma filledLines_unlines : ∀ {ls : List Text}, (∀ l ∈ ls, '\n' ∉ l) →
    filledLines (unlines ls) = (ls.map trim).filter fun l => !l.isEmpty
  | [], _ => rfl
  | [l], h => by
      rw [unlines, joinWith, List.intercalate_singleton, filledLines_of_line (h l (by simp))]
      rfl
  | l :: m :: ls, h => by
      have ih : filledLines (unlines (m :: ls)) = ((m :: ls).map trim).filter fun l => !l.isEmpty :=
        filledLines_unlines fun k hk => h k (List.mem_cons_of_mem _ hk)
      rw [unlines_cons l (by simp), filledLines_append_break, ih,
        filledLines_of_line (h l (by simp)), ← List.filter_append, List.map_cons (l := m :: ls),
        List.singleton_append]

/-- The filled lines of a text are its trimmed lines but the empty ones. -/
lemma filter_lines (t : Text) :
    ((lines t).map trim).filter (fun l => !l.isEmpty) = filledLines t := by
  obtain ⟨ps, p, hsplit, hlines⟩ := exists_lines_eq t
  rw [hlines, filledLines, hsplit]
  by_cases hp : p = []
  · simp [linesOfPieces, hp, Function.comp_def]
  · simp [linesOfPieces, hp, Function.comp_def]

/-- What is read from trimmed lines one by one, and not from an empty line, is
read from the filled lines. -/
lemma filterMap_lines {α : Type*} {read : Text → Option α} (hread : read [] = none) (t : Text) :
    ((lines t).map trim).filterMap read = (filledLines t).filterMap read := by
  rw [← filter_lines, List.filterMap_filter]
  refine List.filterMap_congr fun l _ => ?_
  by_cases hl : l = []
  · simp [hl, hread]
  · simp [hl]

end Text

end ContractScaffold
