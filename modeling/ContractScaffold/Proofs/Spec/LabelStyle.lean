/-
The three styles of a labelled item. They are read alike, but for one place: an item without a
value at the end of a section loses the blank space after its mark, and then the mark that closes
the emphasis behind the colon is read as the value.

* `LabelStyle.item`, `LabelStyle.bare`: an item in each of the styles, and its marks alone.
* `LabelStyle.ofLine?_item`, `LabelStyle.ofLine?_bare`: what is read from either.
* `Field.list_block`: the items of a section around one of its lines.
* `LabelStyle.list_section_of_follows`, `LabelStyle.list_section_of_nothing`: the items of a
  section, of which one is in some style, with something behind it and with nothing.
* `ContractFunction.ofSection?_congr`: a function depends on the values under its labels.
* `labelStyles_agree`: two styles are always read alike, and the third where its item has a value,
  or something follows it, or its label has had an item before.
-/
import ContractScaffold.Proofs.Spec.Written

namespace ContractScaffold

open Text

/-! ### Reading an item -/

namespace Field

lemma dropStrong_of_head {t : Text} (h : t.head? ≠ some '*') : dropStrong t = t := by
  rw [dropStrong]
  rintro rest rfl
  exact h rfl

/-- Behind a hyphen, a label is read up to the first character that it cannot hold, and the value
from what follows the colon. -/
lemma ofLine?_label {mark label : Text} (hmark : mark = "**" ∨ mark = []) (hlabel : IsLabel label)
    {d : Char} (hd : isLabelChar d = false) (back : Text) :
    ofLine? ("- " ++ mark ++ label ++ d :: back) = do
      let value ← after? ':' ((dropStrong (d :: back)).dropWhile isGap)
      return ⟨label, ← valueOf? value⟩ := by
  obtain ⟨c, hc, halpha⟩ := hlabel.head
  obtain ⟨rest, rfl⟩ := List.head?_eq_some_iff.mp hc
  have hgap : isGap c = false := by
    rw [isGap, Bool.or_eq_false_iff, beq_eq_false_iff_ne, beq_eq_false_iff_ne]
    constructor <;> (rintro rfl; simp at halpha)
  have hstar : c ≠ '*' := by rintro rfl; simp at halpha
  have hlabelled : dropStrong ((' ' :: (mark ++ (c :: rest) ++ d :: back)).dropWhile isGap) =
      (c :: rest) ++ d :: back := by
    rcases hmark with rfl | rfl
    · rfl
    · rw [List.dropWhile_cons_of_pos (by decide), List.nil_append, List.cons_append,
        List.dropWhile_cons_of_neg (by simp [hgap]), dropStrong_of_head (by simpa using hstar)]
  have hitem : after? '-' (("- " ++ mark ++ (c :: rest) ++ d :: back : Text).dropWhile isGap) =
      some (' ' :: (mark ++ (c :: rest) ++ d :: back)) := by
    simp [isGap]
  rw [ofLine?, hitem]
  simp only [Option.bind_eq_bind, Option.bind_some]
  rw [hlabelled, takeWhile_until hlabel.chars hd, dropWhile_until hlabel.chars hd,
    trim_of_trimmed hlabel.trimmed]
  simp [Option.filter, halpha]

end Field

/-! ### The styles -/

/-- The styles of a labelled item: the emphasis is closed before the colon or behind it, or there
is none. -/
inductive LabelStyle where
  | outside
  | inside
  | plain
  deriving DecidableEq, Repr

namespace LabelStyle

/-- The mark before the label. -/
def opening : LabelStyle → Text
  | plain => []
  | _ => "**"

/-- The marks between the label and the value. -/
def closing : LabelStyle → Text
  | outside => "**:"
  | inside => ":**"
  | plain => ":"

/-- An item up to its value. -/
def bare (style : LabelStyle) (label : Text) : Text :=
  "- " ++ style.opening ++ label ++ style.closing

/-- The line of an item. -/
def item (style : LabelStyle) (label value : Text) : Text :=
  style.bare label ++ ' ' :: value

/-- What is read of an item with nothing behind its marks. -/
def bareField? (style : LabelStyle) (label : Text) : Option Field :=
  match style with
  | inside => some ⟨label, "**"⟩
  | _ => none

variable {label : Text}

/-- The value is read from what is behind the colon, the closing mark included. -/
lemma ofLine?_bare_append (style : LabelStyle) (hlabel : Field.IsLabel label) (back : Text) :
    Field.ofLine? (style.bare label ++ back) =
      (Field.valueOf? (if style = inside then "**" ++ back else back)).map fun value =>
        ⟨label, value⟩ := by
  have hstar : Field.isLabelChar '*' = false := by decide
  have hcolon : Field.isLabelChar ':' = false := by decide
  cases style with
  | outside =>
      have hline : outside.bare label ++ back =
          "- " ++ "**" ++ label ++ '*' :: '*' :: ':' :: back := by simp [bare, opening, closing]
      rw [hline, Field.ofLine?_label (.inl rfl) hlabel hstar]
      simp [Field.dropStrong, Field.isGap, Option.map_eq_bind]
  | inside =>
      have hline : inside.bare label ++ back =
          "- " ++ "**" ++ label ++ ':' :: '*' :: '*' :: back := by simp [bare, opening, closing]
      rw [hline, Field.ofLine?_label (.inl rfl) hlabel hcolon]
      simp [Field.dropStrong, Field.isGap, Option.map_eq_bind]
  | plain =>
      have hline : plain.bare label ++ back =
          (("- " : Text) ++ [] ++ label ++ ':' :: back : Text) := by
        simp [bare, opening, closing]
      rw [hline, Field.ofLine?_label (.inr rfl) hlabel hcolon]
      simp [Field.dropStrong, Field.isGap, Option.map_eq_bind]

/-- **An item is read alike in all styles**: its label, and its value without the blank space
around it. -/
lemma ofLine?_item (style : LabelStyle) (hlabel : Field.IsLabel label) (value : Text) :
    Field.ofLine? (style.item label value) = some ⟨label, trim value⟩ := by
  have hvalue : Field.valueOf? (if style = inside then "**" ++ ' ' :: value else ' ' :: value) =
      some (trim value) := by
    rw [← trim_space_cons value]
    split_ifs <;> simp [Field.valueOf?, Field.dropStrong]
  rw [item, ofLine?_bare_append style hlabel, hvalue, Option.map_some]

/-- With nothing behind it, the mark behind the colon is read as the value. -/
lemma ofLine?_bare (style : LabelStyle) (hlabel : Field.IsLabel label) :
    Field.ofLine? (style.bare label) = style.bareField? label := by
  have hline := ofLine?_bare_append style hlabel []
  rw [List.append_nil] at hline
  rw [hline]
  cases style <;> rfl

lemma newline_notMem_item (style : LabelStyle) (hlabel : Field.IsLabel label) {value : Text}
    (hvalue : '\n' ∉ value) : '\n' ∉ style.item label value := by
  have hnewline : '\n' ∉ label := fun h => absurd (hlabel.chars _ h) (by decide)
  cases style <;> simp [item, bare, opening, closing, hnewline, hvalue]

/-- Without the blank space at its end, an item ends in its value or, if there is none, in its
marks. -/
lemma dropEndWhile_item_of_blank (style : LabelStyle) (label : Text) {value : Text}
    (hvalue : ∀ c ∈ value, isBlank c = true) :
    dropEndWhile isBlank (style.item label value) = style.bare label := by
  have hspace : ∀ c ∈ ' ' :: value, isBlank c = true := by
    intro c hc
    rcases List.mem_cons.mp hc with rfl | hc
    · exact isBlank_space
    · exact hvalue c hc
  rw [item, dropEndWhile_append_of_all hspace]
  have hclosing : dropEndWhile isBlank style.closing = style.closing := by
    cases style <;> decide
  have hmark : ∃ c ∈ style.closing, isBlank c = false := by
    cases style <;> exact ⟨':', by decide, by decide⟩
  rw [bare, dropEndWhile_append_of_exists hmark, hclosing]

lemma dropEndWhile_item_of_exists (style : LabelStyle) (label : Text) {value : Text}
    (hvalue : ∃ c ∈ value, isBlank c = false) :
    dropEndWhile isBlank (style.item label value) =
      style.item label (dropEndWhile isBlank value) := by
  have hline : style.item label value = (style.bare label ++ [' ']) ++ value := by simp [item]
  rw [hline, dropEndWhile_append_of_exists hvalue]
  simp [item]

end LabelStyle

/-! ### The items of a section -/

namespace Field

/-- A line feed ends an item. -/
lemma list_append_break (a b : Text) : list (a ++ '\n' :: b) = list a ++ list b := by
  rw [list, List.splitOn_append_cons_self, List.filterMap_append, list, list]

lemma list_line {line : Text} (hline : '\n' ∉ line) : list line = (ofLine? line).toList := by
  rw [list, List.splitOn_eq_singleton hline]
  cases hread : ofLine? line <;> simp [hread]

/-- The items on the lines of a section before another one that is not blank: the section has
lost the blank space in front of them only. -/
def before (ls : List Text) : List Field :=
  list ((unlines ls).dropWhile isBlank)

/-- The items on the lines of a section behind another one. -/
def behind (ls : List Text) : List Field :=
  list (dropEndWhile isBlank (unlines ls))

lemma list_nil : list [] = [] := rfl

/-- Around a line that does not begin with blank space, the items of a section are read from
the lines before it and from what begins with it. -/
lemma list_block {c : Char} (hc : isBlank c = false) (l : Text) (front rear : List Text) :
    list (Document.block (front ++ (c :: l) :: rear)) =
      before front ++ list (dropEndWhile isBlank (unlines ((c :: l) :: rear))) := by
  obtain ⟨rest, hrest⟩ : ∃ rest, unlines ((c :: l) :: rear) = c :: rest := by
    rw [unlines, joinWith_cons]
    exact ⟨_, rfl⟩
  have hkept : (c :: rest).dropWhile isBlank = c :: rest :=
    List.dropWhile_cons_of_neg (by simp [hc])
  rw [Document.block, trim, strip, before, hrest]
  by_cases hfront : front = []
  · rw [hfront, List.nil_append, hrest, hkept]
    rfl
  · rw [unlines_append hfront (by simp), hrest, List.dropWhile_append]
    -- blank lines in front go with the line feed behind them, up to the line itself
    by_cases hblank : (unlines front).dropWhile isBlank = []
    · rw [hblank, if_pos List.isEmpty_nil, List.dropWhile_cons_of_pos isBlank_newline, hkept,
        list_nil, List.nil_append]
    · rw [if_neg (by simpa using hblank), List.append_cons,
        dropEndWhile_append_of_exists ⟨c, by simp, hc⟩, List.append_assoc, List.singleton_append,
        list_append_break]

/-- The lines behind one, where one of them is not blank. -/
lemma list_behind (l : Text) {rear : List Text} (hrear : ∃ m ∈ rear, ∃ c ∈ m, isBlank c = false) :
    list (dropEndWhile isBlank (unlines (l :: rear))) = list l ++ behind rear := by
  obtain ⟨m, hm, c, hcm, hc⟩ := hrear
  have hmem : c ∈ unlines rear := (infix_joinWith hm).subset hcm
  rw [unlines_cons l (List.ne_nil_of_mem hm), List.append_cons,
    dropEndWhile_append_of_exists ⟨c, hmem, hc⟩, List.append_assoc, List.singleton_append,
    list_append_break, behind]

lemma behind_of_blank {rear : List Text} (hrear : ∀ m ∈ rear, ∀ c ∈ m, isBlank c = true) :
    behind rear = [] := by
  rw [behind, dropEndWhile_eq_nil_iff.mpr (isBlank_of_mem_unlines hrear), list_nil]

end Field

namespace LabelStyle

variable {label value : Text} {rear : List Text}

/-- Nothing but blank space stands behind the marks of an item, up to the end of its section. -/
def NothingFollows (value : Text) (rear : List Text) : Prop :=
  ∀ m ∈ value :: rear, ∀ c ∈ m, isBlank c = true

instance (value : Text) (rear : List Text) : Decidable (NothingFollows value rear) :=
  inferInstanceAs (Decidable (∀ m ∈ value :: rear, ∀ c ∈ m, isBlank c = true))

/-- **An item that something follows** is read alike in all styles, whatever the other lines of
its section are. -/
lemma list_section_of_follows (style : LabelStyle) (hlabel : Field.IsLabel label)
    (hline : '\n' ∉ value) (front : List Text) (hfollows : ¬ NothingFollows value rear) :
    Field.list (Document.block (front ++ style.item label value :: rear)) =
      Field.before front ++ ⟨label, trim value⟩ :: Field.behind rear := by
  obtain ⟨rest, hrest⟩ : ∃ rest, style.item label value = '-' :: rest := ⟨_, rfl⟩
  rw [hrest, Field.list_block (by decide), ← hrest]
  by_cases hrear : ∃ m ∈ rear, ∃ c ∈ m, isBlank c = false
  · rw [Field.list_behind _ hrear, Field.list_line (style.newline_notMem_item hlabel hline),
      style.ofLine?_item hlabel value]
    rfl
  · -- the item ends the section, and its value is what keeps the space behind its marks
    have hblank : ∀ m ∈ rear, ∀ c ∈ m, isBlank c = true := by simpa using hrear
    have hvalue : ∃ c ∈ value, isBlank c = false := by
      by_contra hno
      have hno : ∀ c ∈ value, isBlank c = true := by simpa using hno
      exact hfollows (List.forall_mem_cons.mpr ⟨hno, hblank⟩)
    have hshort : '\n' ∉ dropEndWhile isBlank value := fun h => hline (mem_of_mem_dropEndWhile h)
    rw [dropEndWhile_unlines _ hblank, style.dropEndWhile_item_of_exists label hvalue,
      Field.list_line (style.newline_notMem_item hlabel hshort), style.ofLine?_item hlabel,
      trim_dropEndWhile, Field.behind_of_blank hblank]
    rfl

/-- **An item that nothing follows** is read from its marks alone. -/
lemma list_section_of_nothing (style : LabelStyle) (hlabel : Field.IsLabel label)
    (front : List Text) (hnothing : NothingFollows value rear) :
    Field.list (Document.block (front ++ style.item label value :: rear)) =
      Field.before front ++ (style.bareField? label).toList := by
  obtain ⟨hvalue, hrear⟩ := List.forall_mem_cons.mp hnothing
  obtain ⟨rest, hrest⟩ : ∃ rest, style.item label value = '-' :: rest := ⟨_, rfl⟩
  have hnewline : '\n' ∉ style.bare label := by
    have hitem : '\n' ∉ style.item label [] := style.newline_notMem_item hlabel List.not_mem_nil
    exact fun h => hitem (List.mem_append_left _ h)
  rw [hrest, Field.list_block (by decide), ← hrest, dropEndWhile_unlines _ hrear,
    style.dropEndWhile_item_of_blank label hvalue, Field.list_line hnewline,
    style.ofLine?_bare hlabel]

/-- Emphasis that is closed before the colon and no emphasis are always read alike. -/
lemma list_section_plain (hlabel : Field.IsLabel label) (hline : '\n' ∉ value)
    (front rear : List Text) :
    Field.list (Document.block (front ++ plain.item label value :: rear)) =
      Field.list (Document.block (front ++ outside.item label value :: rear)) := by
  by_cases hnothing : NothingFollows value rear
  · rw [list_section_of_nothing _ hlabel front hnothing,
      list_section_of_nothing _ hlabel front hnothing]
    rfl
  · rw [list_section_of_follows _ hlabel hline front hnothing,
      list_section_of_follows _ hlabel hline front hnothing]

end LabelStyle

/-! ### The function of a section -/

namespace Field

variable {fs : List Field} {label : Text}

lemma sameLetters_congr {a b : Text} (h : sameLetters a b = true) (t : Text) :
    sameLetters t a = sameLetters t b := by
  rw [sameLetters, beq_iff_eq] at h
  rw [sameLetters, sameLetters, h]

/-- The first item with a label hides the later ones. -/
lemma single_append_of_mem {x : Field} (hx : x ∈ fs) (hlabel : sameLetters x.label label = true)
    (gs : List Field) : single (fs ++ gs) label = single fs label := by
  have hsome : (fs.find? fun y => sameLetters y.label label).isSome = true := by
    rw [List.find?_isSome]
    exact ⟨x, hx, hlabel⟩
  obtain ⟨y, hy⟩ := Option.isSome_iff_exists.mp hsome
  rw [single, List.find?_append, hy, Option.some_or, single, hy]

lemma single_append_of_forall (hfs : ∀ x ∈ fs, sameLetters x.label label = false)
    (gs : List Field) : single (fs ++ gs) label = single gs label := by
  have hnone : (fs.find? fun y => sameLetters y.label label) = none := by
    refine List.find?_eq_none.mpr fun y hy => ?_
    simp [hfs y hy]
  rw [single, List.find?_append, hnone, Option.none_or, single]

/-- Items with other labels are not seen. -/
lemma single_append_of_others {gs : List Field}
    (hgs : ∀ y ∈ gs, sameLetters y.label label = false) (fs : List Field) :
    single (fs ++ gs) label = single fs label := by
  have hnone : (gs.find? fun y => sameLetters y.label label) = none := by
    refine List.find?_eq_none.mpr fun y hy => ?_
    simp [hgs y hy]
  rw [single, List.find?_append, hnone, Option.or_none, single]

end Field

namespace ContractFunction

variable {heading body body' : Text}

/-- A function depends on the values under its labels only. -/
lemma ofSection?_congr (h : ∀ known ∈ fieldLabels,
    Field.single (Field.list body) known = Field.single (Field.list body') known) :
    ofSection? ⟨heading, body⟩ = ofSection? ⟨heading, body'⟩ := by
  simp only [fieldLabels, List.forall_mem_cons] at h
  obtain ⟨hdescription, hpre, hpost, hsecurity, hevents, hreturns, -⟩ := h
  simp only [ofSection?, Field.several, hdescription, hpre, hpost, hsecurity, hevents, hreturns]

/-- And it shows them, as far as lists of items do. -/
lemma several_eq_of_ofSection?_eq (hheading : (ofHeading? heading).isSome = true)
    (h : ofSection? ⟨heading, body⟩ = ofSection? ⟨heading, body'⟩) {known : Text}
    (hknown : known ∈ fieldLabels) :
    Field.several (Field.list body) known = Field.several (Field.list body') known := by
  obtain ⟨⟨name, parameters⟩, hread⟩ := Option.isSome_iff_exists.mp hheading
  simp only [ofSection?, hread, Option.bind_eq_bind, Option.bind_some, Option.pure_def,
    Option.some.injEq, ContractFunction.mk.injEq, true_and] at h
  obtain ⟨hdescription, hpre, hpost, hsecurity, hevents, hreturns⟩ := h
  simp only [fieldLabels, List.mem_cons, List.not_mem_nil, or_false] at hknown
  rcases hknown with rfl | rfl | rfl | rfl | rfl | rfl
  · exact congrArg Field.items hdescription
  · exact hpre
  · exact hpost
  · exact congrArg Field.items hsecurity
  · exact hevents
  · exact congrArg Field.items hreturns

end ContractFunction

namespace LabelStyle

variable {label known value : Text} {front rear : List Text}

/-- The value under the label of the first item with it, where something follows the item. -/
lemma single_of_follows (style : LabelStyle) (hlabel : Field.IsLabel label)
    (hknown : sameLetters label known = true) (hline : '\n' ∉ value)
    (hfirst : ∀ x ∈ Field.before front, sameLetters x.label label = false)
    (hfollows : ¬ NothingFollows value rear) :
    Field.single (Field.list (Document.block (front ++ style.item label value :: rear))) known =
      trim value := by
  simp only [Field.sameLetters_congr hknown] at hfirst
  rw [style.list_section_of_follows hlabel hline front hfollows,
    Field.single_append_of_forall hfirst]
  simp [Field.single, hknown]

/-- And where nothing does: the closing mark, if it stands behind the colon. -/
lemma single_of_nothing (style : LabelStyle) (hlabel : Field.IsLabel label)
    (hknown : sameLetters label known = true)
    (hfirst : ∀ x ∈ Field.before front, sameLetters x.label label = false)
    (hnothing : NothingFollows value rear) :
    Field.single (Field.list (Document.block (front ++ style.item label value :: rear))) known =
      if style = inside then ("**" : Text) else [] := by
  simp only [Field.sameLetters_congr hknown] at hfirst
  rw [style.list_section_of_nothing hlabel front hnothing, Field.single_append_of_forall hfirst]
  cases style with
  | inside => simp [bareField?, Field.single, hknown]
  | outside => rfl
  | plain => rfl

/-- An earlier item with the label hides the difference. -/
lemma single_of_earlier (style : LabelStyle) (hlabel : Field.IsLabel label)
    (hearlier : ∃ x ∈ Field.before front, sameLetters x.label label = true)
    (hnothing : NothingFollows value rear) :
    Field.single (Field.list (Document.block (front ++ style.item label value :: rear))) known =
      Field.single (Field.before front) known := by
  rw [style.list_section_of_nothing hlabel front hnothing]
  by_cases hknown : sameLetters label known = true
  · obtain ⟨x, hx, hsame⟩ := hearlier
    rw [Field.sameLetters_congr hknown] at hsame
    exact Field.single_append_of_mem hx hsame _
  · refine Field.single_append_of_others (fun y hy => ?_) _
    cases style with
    | inside =>
        obtain rfl : y = ⟨label, "**"⟩ := by simpa [bareField?] using hy
        simpa using hknown
    | outside => simp [bareField?] at hy
    | plain => simp [bareField?] at hy

end LabelStyle

/-- **The styles of an item are read alike, but for one place.** Let a function section hold an
item with one of its labels, in any case of letters, with any value on its line and any lines
around it. The body of a section is the block of its lines.

Emphasis that is closed before the colon is read as no emphasis is. Emphasis that is closed behind
the colon is read so too, unless nothing follows the item in its section and none before it has
its label: then the closing mark is read as the value, where it should be empty. -/
theorem labelStyles_agree {heading label known value : Text}
    (hheading : (ContractFunction.ofHeading? heading).isSome = true)
    (hknown : known ∈ ContractFunction.fieldLabels) (hlabel : sameLetters label known = true)
    (hline : '\n' ∉ value) (front rear : List Text) :
    let body (style : LabelStyle) := Document.block (front ++ style.item label value :: rear)
    let read (style : LabelStyle) := ContractFunction.ofSection? ⟨heading, body style⟩
    let isFirst := ∀ x ∈ Field.before front, sameLetters x.label label = false
    read .plain = read .outside ∧
      (read .inside = read .outside ↔ ¬ (LabelStyle.NothingFollows value rear ∧ isFirst)) ∧
      (trim value = [] → isFirst → ∀ style, Field.single (Field.list (body style)) known =
        if style = .inside ∧ LabelStyle.NothingFollows value rear then ("**" : Text) else []) := by
  intro body read isFirst
  have hislabel := ContractFunction.isLabel_of_sameLetters hknown hlabel
  refine ⟨?_, ⟨?_, fun hnot => ?_⟩, fun hvalue hfirst style => ?_⟩
  · refine ContractFunction.ofSection?_congr fun k _ => ?_
    rw [LabelStyle.list_section_plain hislabel hline front rear]
  · -- the closing mark is an item of a list as well as a text, so that each label shows it
    rintro h ⟨hnothing, hfirst⟩
    have hseveral := ContractFunction.several_eq_of_ofSection?_eq hheading h hknown
    rw [Field.several, Field.several,
      LabelStyle.single_of_nothing _ hislabel hlabel hfirst hnothing,
      LabelStyle.single_of_nothing _ hislabel hlabel hfirst hnothing] at hseveral
    exact absurd hseveral (by decide)
  · refine ContractFunction.ofSection?_congr fun k _ => ?_
    by_cases hnothing : LabelStyle.NothingFollows value rear
    · have hearlier : ∃ x ∈ Field.before front, sameLetters x.label label = true := by
        by_contra hnone
        exact hnot ⟨hnothing, by simpa using hnone⟩
      rw [LabelStyle.single_of_earlier _ hislabel hearlier hnothing,
        LabelStyle.single_of_earlier _ hislabel hearlier hnothing]
    · rw [LabelStyle.list_section_of_follows _ hislabel hline front hnothing,
        LabelStyle.list_section_of_follows _ hislabel hline front hnothing]
  · by_cases hnothing : LabelStyle.NothingFollows value rear
    · rw [LabelStyle.single_of_nothing style hislabel hlabel hfirst hnothing]
      simp only [hnothing, and_true]
    · rw [LabelStyle.single_of_follows style hislabel hlabel hline hfirst hnothing, hvalue,
        if_neg fun h => hnothing h.2]

/-- A function in three sections: with a value, with an empty one before another item, and with an
empty one at the end, where the styles differ. -/
theorem labelStyles_agree_returns :
    let read (style : LabelStyle) (value : Text) (rear : List Text) :=
      ContractFunction.ofSection? ⟨"Function: f()",
        Document.block ([("- Security: none" : Text)] ++ style.item "RETURNS" value :: rear)⟩
    read .plain "bool" [] = read .outside "bool" [] ∧
      read .inside "bool" [] = read .outside "bool" [] ∧
      read .inside [] ["- Events: E"] = read .outside [] ["- Events: E"] ∧
      read .inside [] [] ≠ read .outside [] [] := by
  have hheading : (ContractFunction.ofHeading? "Function: f()").isSome = true := by decide
  have hknown : returnsLabel ∈ ContractFunction.fieldLabels := by decide
  have hlabel : sameLetters ("RETURNS" : Text) returnsLabel = true := by decide
  have hvalue : '\n' ∉ ("bool" : Text) := by decide
  have hfirst : ∀ x ∈ Field.before ["- Security: none"], sameLetters x.label "RETURNS" = false := by
    decide
  obtain ⟨hplain, hinside, -⟩ :=
    labelStyles_agree hheading hknown hlabel hvalue ["- Security: none"] []
  obtain ⟨-, hevents, -⟩ :=
    labelStyles_agree hheading hknown hlabel List.not_mem_nil ["- Security: none"] ["- Events: E"]
  obtain ⟨-, hlast, -⟩ :=
    labelStyles_agree hheading hknown hlabel List.not_mem_nil ["- Security: none"] []
  refine ⟨hplain, hinside.mpr fun h => ?_, hevents.mpr fun h => ?_, fun h => ?_⟩
  · have hblank : isBlank 'b' = true := h.1 "bool" (by simp) 'b' (by simp)
    exact absurd hblank (by decide)
  · have hblank : isBlank '-' = true := h.1 "- Events: E" (by simp) '-' (by simp)
    exact absurd hblank (by decide)
  · exact hlast.mp h ⟨by simp [LabelStyle.NothingFollows], hfirst⟩

/-- **The mark that closes the emphasis can be read as a value**: the last item of a document, in
the three styles. -/
theorem closing_mark_read :
    let returns (t : Text) := (Spec.ofText t).functions.map ContractFunction.returns
    returns "## Function: f()\n- **Returns**: " = [[]] ∧
      returns "## Function: f()\n- Returns: " = [[]] ∧
      returns "## Function: f()\n- **Returns:** " = ["**"] := by
  decide

end ContractScaffold
