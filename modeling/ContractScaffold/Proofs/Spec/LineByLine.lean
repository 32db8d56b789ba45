/-
Items are read line by line. For labelled items this is a property of the pattern that they match,
which is searched for in a whole section at once.

* `Field.pattern`, `Field.search`: the pattern of a labelled item, and its matches in a section.
* `Field.search_append_break`: the search does not see other lines.
* `Field.first_valued`, `Field.first_behindColon`, `Field.first_behindLabel`,
  `Field.first_labelled`, `Field.first_pattern`: on a line, the match of each part of the pattern,
  from the last one on, is what is read there.
* `Field.search_eq_list`: the search finds the items that are read line by line.
* `ReadsLineByLine`: what reads the lines of a text one by one.
* `items_readLineByLine`: labelled items, bullets, state variables and events.
-/
import ContractScaffold.Proofs.Spec.Edit
import ContractScaffold.Proofs.Spec.LabelStyle
import ContractScaffold.Proofs.Text.Pattern

namespace ContractScaffold

open Text

/-! ### The pattern of a labelled item -/

namespace Field

/-- Blank space inside a line. -/
def gaps : Pattern := .several isGap true

/-- A mark of strong emphasis, or none. -/
def strong : Pattern := .optional (.char (· == '*') ++ .char (· == '*'))

/-- A value, which is not empty and no longer than it has to be, up to the end of its line. -/
def valued : Pattern :=
  .group (.char (· != '\n') ++ .several (· != '\n') false) ++ (gaps ++ .lineEnd)

/-- What stands behind the colon of an item. -/
def behindColon : Pattern := strong ++ (gaps ++ valued)

/-- What stands behind the label of an item. -/
def behindLabel : Pattern := strong ++ (gaps ++ (.char (· == ':') ++ behindColon))

/-- A label, which begins with a letter and is no longer than it has to be, and what stands
behind it. -/
def labelled : Pattern := .group (.char Char.isAlpha ++ .several isLabelChar false) ++ behindLabel

/-- A labelled item in any of its styles, on a line of its own. -/
def pattern : Pattern :=
  .lineStart ++ (gaps ++ (.char (· == '-') ++ (gaps ++ (strong ++ labelled))))

/-- The item of a match, by what its two groups matched. -/
def ofGroups (groups : List Text) : Field :=
  ⟨trim (groups.getD 0 []), trim (groups.getD 1 [])⟩

/-- The items of the matches in a section body. -/
def search (body : Text) : List Field :=
  (pattern.search body).map ofGroups

/-- **The search does not see other lines.** -/
lemma search_append_break (a b : Text) : search (a ++ '\n' :: b) = search a ++ search b := by
  have hstays : pattern.staysOnLine = true := by decide
  rw [search, Pattern.search_append_break hstays, List.map_append, search, search]

/-! ### The match on a line -/

section Match

open Pattern

variable {α : Type*} {f : Position → Option α} {X : Option α} {groups : List Text} {label t : Text}

lemma dropStrong_of_ne (ht : ∀ u, t ≠ '*' :: '*' :: u) : dropStrong t = t := by
  rw [dropStrong]
  exact fun u => ht u

lemma first_strong_cons (startsLine : Bool) (u : Text) :
    strong.first f ⟨startsLine, '*' :: '*' :: u, groups⟩ =
      (f ⟨false, u, groups⟩).or (f ⟨startsLine, '*' :: '*' :: u, groups⟩) := by
  rw [strong, first_optional, first_append, first_char_cons, if_pos (by decide), first_char_cons,
    if_pos (by decide)]
  rfl

lemma first_strong_of_ne (ht : ∀ u, t ≠ '*' :: '*' :: u) (startsLine : Bool) :
    strong.first f ⟨startsLine, t, groups⟩ = f ⟨startsLine, t, groups⟩ := by
  have hnone : (char (· == '*')).first ((char (· == '*')).first f) ⟨startsLine, t, groups⟩ =
      none := by
    match t with
    | [] => rfl
    | [c] =>
        rw [first_char_cons]
        split_ifs <;> rfl
    | c :: d :: u =>
        rw [first_char_cons, first_char_cons]
        split_ifs with hc hd
        · exact absurd (by simp_all) (ht u)
        · rfl
        · rfl
  rw [strong, first_optional, first_append, hnone, Option.none_or]

/-- Where nothing leads on from an asterisk, a mark of strong emphasis is taken. -/
lemma first_strong_of_forced
    (hforced : ∀ startsLine u, f ⟨startsLine, '*' :: u, groups⟩ = none)
    (hgiven : ∀ startsLine, f ⟨startsLine, dropStrong t, groups⟩ = X) (startsLine : Bool) :
    strong.first f ⟨startsLine, t, groups⟩ = X := by
  by_cases ht : ∃ u, t = '*' :: '*' :: u
  · obtain ⟨u, rfl⟩ := ht
    rw [first_strong_cons, hforced, Option.or_none]
    exact hgiven false
  · push Not at ht
    rw [first_strong_of_ne ht, ← hgiven startsLine, dropStrong_of_ne ht]

lemma first_char_append (d : Char) (p : Pattern) (startsLine : Bool) (t : Text) :
    (char (· == d) ++ p).first f ⟨startsLine, t, groups⟩ =
      (after? d t).bind fun u => p.first f ⟨d == '\n', u, groups⟩ := by
  rw [first_append]
  cases t with
  | nil => rfl
  | cons c t =>
      rw [first_char_cons, after?]
      by_cases hc : c = d
      · rw [if_pos (by simp [hc]), if_pos hc, hc]
        rfl
      · rw [if_neg (by simp [hc]), if_neg hc]
        rfl

/-- Blank space in front of a character is skipped. -/
lemma first_gaps_char_append {d : Char} (hd : isGap d = false) (p : Pattern) (startsLine : Bool)
    (t : Text) : (gaps ++ (char (· == d) ++ p)).first f ⟨startsLine, t, groups⟩ =
      (after? d (t.dropWhile isGap)).bind fun u => p.first f ⟨d == '\n', u, groups⟩ := by
  rw [first_append]
  refine first_several_of_forced (fun s c u hc => ?_)
    (fun s => first_char_append d p s _) startsLine
  have hne : c ≠ d := fun h => by simp [h, hd] at hc
  rw [first_char_append, after?, if_neg hne]
  rfl

/-- The item of a match that ends at some place. -/
def atEnd (e : Position) : Option Field :=
  some (ofGroups e.groups)

/-- At the end of an item, blank space is all that may stand on its line. -/
lemma first_ending (ht : '\n' ∉ t) (startsLine : Bool) :
    (gaps ++ lineEnd).first atEnd ⟨startsLine, t, groups⟩ =
      if t.dropWhile isGap = [] then some (ofGroups groups) else none := by
  have hnone : ∀ startsLine c u, c ≠ '\n' →
      lineEnd.first atEnd ⟨startsLine, c :: u, groups⟩ = none := by
    intro startsLine c u hc
    simp [first, ends, hc]
  have hend : ∀ startsLine u, '\n' ∉ u → lineEnd.first atEnd ⟨startsLine, u, groups⟩ =
      if u = [] then some (ofGroups groups) else none := by
    rintro startsLine (_ | ⟨c, u⟩) hu
    · rfl
    · rw [hnone startsLine c u fun h => hu (by simp [h]), if_neg (List.cons_ne_nil c u)]
  rw [first_append]
  refine first_several_of_forced (fun s c u hc => ?_) (fun s => hend s _ ?_) startsLine
  · exact hnone s c u fun h => absurd (h ▸ hc) (by decide)
  · exact fun h => ht ((List.dropWhile_suffix _).subset h)

/-- A value goes up to the blank space at the end of its line. -/
lemma first_valued (ht : '\n' ∉ t) (startsLine : Bool) :
    valued.first atEnd ⟨startsLine, t, [label]⟩ =
      if t = [] then none else some ⟨trim label, trim t⟩ := by
  rw [valued, first_append, first_group, first_append]
  cases t with
  | nil => rfl
  | cons c t =>
      have hline : ∀ d ∈ c :: t, (d != '\n') = true := by
        rintro d hd
        simpa using fun h : d = '\n' => ht (h ▸ hd)
      obtain ⟨hc, hline⟩ := List.forall_mem_cons.mp hline
      rw [first_char_cons, if_pos hc, if_neg (List.cons_ne_nil c t)]
      have hgiven : ∀ s u v, t = u ++ v → (gaps ++ lineEnd).first atEnd
          (Position.closing ⟨s, v, [label]⟩ ⟨startsLine, c :: t, [label]⟩) =
          if v.dropWhile isGap = [] then some ⟨trim label, trim (c :: u)⟩ else none := by
        rintro s u v rfl
        rw [← List.cons_append, closing_eq, first_ending fun h => ht (by simp [h])]
        rfl
      -- all values that only blank space follows are the same without it, the whole line too
      refine first_several (List.append_nil t).symm hline
        (fun s => hgiven s t [] (List.append_nil t).symm) (fun s u v hsplit hu => ?_) _
      rw [hgiven s u v hsplit]
      split_ifs with hgap
      · have hblank : ∀ d ∈ v, isBlank d = true := fun d hd =>
          isBlank_of_isGap (List.dropWhile_eq_nil_iff.mp hgap d hd)
        rw [hsplit, ← List.cons_append, trim_append_of_blank hblank]
        exact Or.inr rfl
      · exact Or.inl rfl

/-- Blank space in front of a value does not count. -/
lemma first_gaps_valued (ht : '\n' ∉ t) (startsLine : Bool) :
    (gaps ++ valued).first atEnd ⟨startsLine, t, [label]⟩ =
      if t = [] then none else some ⟨trim label, trim t⟩ := by
  rw [first_append]
  refine first_several (List.nil_append t).symm (by simp) (fun s => first_valued ht s)
    (fun s u v hsplit hu => ?_) startsLine
  subst hsplit
  rw [first_valued fun h => ht (by simp [h])]
  by_cases hv : v = []
  · exact Or.inl (if_pos hv)
  · have hblank : ∀ c ∈ u, isBlank c = true := fun c hc => isBlank_of_isGap (hu c hc)
    have htrim : trim (u ++ v) = trim v := by
      simpa [trim] using strip_surrounded (b := []) hblank (by simp) v
    exact Or.inr (by rw [if_neg hv, if_neg (by simp [hv]), htrim])

/-- The value behind a colon is read from the match. -/
lemma first_behindColon (ht : '\n' ∉ t) (startsLine : Bool) :
    behindColon.first atEnd ⟨startsLine, t, [label]⟩ =
      (valueOf? t).map fun value => ⟨trim label, value⟩ := by
  rw [behindColon, first_append]
  by_cases hmark : ∃ u, t = '*' :: '*' :: u
  · obtain ⟨u, rfl⟩ := hmark
    rw [first_strong_cons, first_gaps_valued fun h => ht (by simp [h]), first_gaps_valued ht,
      valueOf?, dropStrong]
    by_cases hu : u = [] <;> simp [hu]
  · push Not at hmark
    rw [first_strong_of_ne hmark, first_gaps_valued ht, valueOf?, dropStrong_of_ne hmark, ite_self]
    split_ifs <;> rfl

/-- The item that is read behind its label. -/
def behindLabel? (label t : Text) : Option Field := do
  let value ← after? ':' ((dropStrong t).dropWhile isGap)
  return ⟨trim label, ← valueOf? value⟩

lemma first_behindLabel (ht : '\n' ∉ t) (startsLine : Bool) :
    behindLabel.first atEnd ⟨startsLine, t, [label]⟩ = behindLabel? label t := by
  have hgap : isGap ':' = false := by decide
  rw [behindLabel, first_append]
  refine first_strong_of_forced (fun s u => ?_) (fun s => ?_) startsLine
  · rw [first_gaps_char_append hgap, List.dropWhile_cons_of_neg (by decide)]
    rfl
  · rw [first_gaps_char_append hgap, behindLabel?]
    cases hafter : after? ':' ((dropStrong t).dropWhile isGap) with
    | none => rfl
    | some v =>
        have hsuffix : v <:+ t :=
          (suffix_of_dropWhile_eq (after?_eq_some_iff.mp hafter)).trans (dropStrong_suffix t)
        have hline : '\n' ∉ v := fun h => ht (hsuffix.subset h)
        rw [Option.bind_some, first_behindColon hline]
        cases hvalue : valueOf? v <;> simp [hvalue]

/-- Nothing is read behind a part of a label, or the same as behind all of it: only spaces of the
label can stand between the two. -/
lemma behindLabel?_eq_none_or (label t : Text) : behindLabel? label t = none ∨
    behindLabel? label t =
      behindLabel? (label ++ t.takeWhile isLabelChar) (t.dropWhile isLabelChar) := by
  induction t generalizing label with
  | nil => simp
  | cons d t ih =>
      by_cases hd : isLabelChar d = true
      · have hother : ∀ c, isLabelChar c = false → d ≠ c := fun c hc h => by simp [h, hc] at hd
        have hstrong : dropStrong (d :: t) = d :: t :=
          dropStrong_of_head (by simpa using hother '*' (by decide))
        by_cases hspace : d = ' '
        · subst hspace
          by_cases hmark : t.head? = some '*'
          · obtain ⟨u, rfl⟩ := List.head?_eq_some_iff.mp hmark
            exact Or.inl (by simp [behindLabel?, hstrong, isGap, after?])
          · have hnext : behindLabel? label (' ' :: t) = behindLabel? (label ++ [' ']) t := by
              have htrim : trim (label ++ [' ']) = trim label :=
                trim_append_of_blank (by simp [isBlank_space]) label
              rw [behindLabel?, behindLabel?, hstrong, dropStrong_of_head hmark, htrim,
                List.dropWhile_cons_of_pos (by decide)]
            simpa [hnext, hd] using ih (label ++ [' '])
        · have hgap : isGap d = false := by simp [isGap, hspace, hother '\t' (by decide)]
          have hcolon : d ≠ ':' := hother ':' (by decide)
          exact Or.inl (by simp [behindLabel?, hstrong, hgap, after?, hcolon])
      · exact Or.inr (by simp [hd])

/-- The item that is read where its label begins. -/
def labelled? (t : Text) : Option Field := do
  let label := t.takeWhile isLabelChar
  let _ ← label.head?.filter Char.isAlpha
  behindLabel? label (t.dropWhile isLabelChar)

lemma first_labelled_cons (startsLine : Bool) {c : Char} (hc : c.isAlpha = false) (t : Text) :
    labelled.first atEnd ⟨startsLine, c :: t, []⟩ = none := by
  rw [labelled, first_append, first_group, first_append, first_char_cons, if_neg (by simp [hc])]

lemma first_labelled (ht : '\n' ∉ t) (startsLine : Bool) :
    labelled.first atEnd ⟨startsLine, t, []⟩ = labelled? t := by
  cases t with
  | nil => rfl
  | cons c t =>
      by_cases hc : c.isAlpha = true
      · have hlabel : isLabelChar c = true := by simp [isLabelChar, hc]
        have hgiven : ∀ s u v, t = u ++ v → behindLabel.first atEnd
            (Position.closing ⟨s, v, []⟩ ⟨startsLine, c :: t, []⟩) = behindLabel? (c :: u) v := by
          rintro s u v rfl
          rw [← List.cons_append, closing_eq, List.nil_append,
            first_behindLabel fun h => ht (by simp [h])]
        have hsplit : t = t.takeWhile isLabelChar ++ t.dropWhile isLabelChar :=
          List.takeWhile_append_dropWhile.symm
        have hread : labelled? (c :: t) =
            behindLabel? (c :: t.takeWhile isLabelChar) (t.dropWhile isLabelChar) := by
          simp [labelled?, hlabel, hc, Option.filter]
        rw [labelled, first_append, first_group, first_append, first_char_cons, if_pos hc, hread]
        refine first_several hsplit (fun d hd => List.mem_takeWhile_imp hd)
          (fun s => hgiven s _ _ hsplit) (fun s u v hsplit hu => ?_) _
        rw [hgiven s u v hsplit, hsplit, List.takeWhile_append_of_pos hu,
          List.dropWhile_append_of_pos hu]
        exact behindLabel?_eq_none_or (c :: u) v
      · rw [first_labelled_cons startsLine (by simpa using hc)]
        by_cases hlabel : isLabelChar c = true <;> simp [labelled?, hlabel, hc, Option.filter]

/-- **On a line, the match of the pattern is the item that is read from it.** -/
lemma first_pattern (ht : '\n' ∉ t) : pattern.first atEnd ⟨true, t, []⟩ = ofLine? t := by
  have hitem : ofLine? t = (after? '-' (t.dropWhile isGap)).bind fun item =>
      labelled? (dropStrong (item.dropWhile isGap)) := rfl
  have hstart : pattern.first atEnd ⟨true, t, []⟩ =
      (gaps ++ (char (· == '-') ++ (gaps ++ (strong ++ labelled)))).first atEnd ⟨true, t, []⟩ := by
    rw [pattern, first_append]
    exact List.findSome?_singleton
  rw [hitem, hstart, first_gaps_char_append (by decide)]
  cases hafter : after? '-' (t.dropWhile isGap) with
  | none => rfl
  | some item =>
      have hsuffix : item <:+ t := suffix_of_dropWhile_eq (after?_eq_some_iff.mp hafter)
      have hline : '\n' ∉ dropStrong (item.dropWhile isGap) := fun h => ht <|
        hsuffix.subset ((List.dropWhile_suffix _).subset ((dropStrong_suffix _).subset h))
      have hnone : ∀ s c u, isGap c = true →
          (strong ++ labelled).first atEnd ⟨s, c :: u, []⟩ = none := by
        intro s c u hc
        have hother : ∀ d, isGap d = false → c ≠ d := fun d hd h => by simp [h, hd] at hc
        rw [first_append, first_strong_of_ne fun v h => hother '*' (by decide) (by simp_all)]
        refine first_labelled_cons s ?_ u
        rcases (by simpa [isGap] using hc : c = ' ' ∨ c = '\t') with rfl | rfl <;> decide
      rw [Option.bind_some, Option.bind_some, first_append]
      refine first_several_of_forced hnone (fun s => ?_) _
      rw [first_append]
      exact first_strong_of_forced (fun s u => first_labelled_cons s (by decide) u)
        (fun s => first_labelled hline s) s

lemma search_line (ht : '\n' ∉ t) : search t = list t := by
  have hconsumes : pattern.consumes = true := by decide
  have hread : (pattern.ends ⟨true, t, []⟩).head?.map (fun e => ofGroups e.groups) =
      pattern.first atEnd ⟨true, t, []⟩ := (first_some _ _ _).symm
  calc search t
      = ((pattern.ends ⟨true, t, []⟩).head?.map Position.groups).toList.map ofGroups := by
        rw [search, Pattern.search_line (fun _ => rfl) hconsumes ht]
    _ = (pattern.first atEnd ⟨true, t, []⟩).toList := by
        rw [← hread]
        cases (pattern.ends ⟨true, t, []⟩).head? <;> rfl
    _ = (ofLine? t).toList := by rw [first_pattern ht]
    _ = list t := (list_line ht).symm

end Match

/-- **The search finds the items that are read from the lines**, one by one. -/
lemma search_eq_list (body : Text) : search body = list body := by
  induction body using line_induction with
  | last l hl => exact search_line hl
  | line l u hl ih => rw [search_append_break, list_append_break, ih, search_line hl]

end Field

/-! ### Reading line by line -/

/-- What reads the lines of a text one by one, and at most one item from each. -/
structure ReadsLineByLine {α : Type*} (read : Text → List α) : Prop where
  append_break : ∀ a b, read (a ++ '\n' :: b) = read a ++ read b
  length_le_one : ∀ l, '\n' ∉ l → (read l).length ≤ 1

section Readers

variable {α : Type*} {entry : Text → Option α}

/-- Where a line gives at most one item, and an empty line gives none. -/
lemma readsLineByLine_filterMap (hentry : entry [] = none) :
    ReadsLineByLine fun t => (trimmedLines t).filterMap entry where
  append_break a b := by
    simp only [trimmedLines, filterMap_lines hentry, filledLines_append_break,
      List.filterMap_append]
  length_le_one l hl := by
    have hlines := filledLines_of_line hl
    simp only [trimmedLines, filterMap_lines hentry, hlines]
    exact (List.length_filterMap_le _ _).trans (List.length_filter_le _ _)

end Readers

lemma Field.readsLineByLine_list : ReadsLineByLine Field.list where
  append_break := Field.list_append_break
  length_le_one l hl := by
    rw [Field.list_line hl]
    cases Field.ofLine? l <;> simp

/-- **Items are read line by line.** The pattern of labelled items is searched for in a section as a
whole, and its matches are those on the lines, one by one: none of them sees another line. So the
items in a text that a line feed cuts into two are those before it and then those behind it, and the
value under a label is the first one of the front where that has one, and else that of the rear.
Bullets, state variables and events are read line by line, too. -/
theorem items_readLineByLine (a b label : Text) :
    Field.search (a ++ '\n' :: b) = Field.search a ++ Field.search b ∧
      (∀ body, Field.search body = Field.list body) ∧
      Field.single (Field.list (a ++ '\n' :: b)) label =
        (if ∃ x ∈ Field.list a, sameLetters x.label label = true
          then Field.single (Field.list a) label else Field.single (Field.list b) label) ∧
      ReadsLineByLine Field.list ∧ ReadsLineByLine bullets ∧
      ReadsLineByLine StateVariable.list ∧ ReadsLineByLine Event.list := by
  refine ⟨Field.search_append_break a b, Field.search_eq_list, ?_, Field.readsLineByLine_list,
    readsLineByLine_filterMap rfl, readsLineByLine_filterMap rfl, readsLineByLine_filterMap rfl⟩
  rw [Field.list_append_break]
  split_ifs with hfront
  · obtain ⟨x, hx, hlabel⟩ := hfront
    exact Field.single_append_of_mem hx hlabel _
  · refine Field.single_append_of_forall (fun x hx => ?_) _
    simpa using fun hlabel => hfront ⟨x, hx, hlabel⟩

/-- A label without a value takes nothing from the next line. -/
example : Field.search "- Input:\n- **Output:** none" = [⟨"Output", "none"⟩] := by
  decide

end ContractScaffold
