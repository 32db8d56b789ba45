/-
Documents as partitions of their lines. The heading lines cut the lines of a text into those
before the first of them and, for each, itself and the lines below it. There is one way to do so,
and the document of the text is made of it, part by part.

* `HasMark`, `IsHeadingLine`: heading lines, and what they have behind their mark;
  `headingOf?_eq_some_iff_hasMark` and `headingOf?_eq_none_iff` say that these are the lines with
  a heading.
* `Part`, `Partition`: a heading line with the lines below it, and lines cut into such parts.
* `flatMap_lines_inj`, `Partition.unique`: lines are cut in one way.
* `segment_flatMap_lines`, `Partition.segment_eq`: segmentation gives the parts.
* `ofText_partition`: the document of every text.
-/
import ContractScaffold.Proofs.Document

namespace ContractScaffold

open Text

namespace Document

/-! ### Heading lines -/

/-- The line has the mark of a heading and `rest` behind it: at most three spaces, two number
signs, and then nothing or a character other than a third sign. -/
def HasMark (line rest : Text) : Prop :=
  (∃ indent ≤ 3, line = List.replicate indent ' ' ++ '#' :: '#' :: rest) ∧ rest.head? ≠ some '#'

/-- A line with the mark of a heading. -/
def IsHeadingLine (line : Text) : Prop :=
  ∃ rest, HasMark line rest

/-- A line has one rest behind its mark. -/
lemma HasMark.unique {line rest rest' : Text} (h : HasMark line rest)
    (h' : HasMark line rest') : rest = rest' := by
  have hdrop : ∀ {rest : Text}, HasMark line rest →
      line.dropWhile (· == ' ') = '#' :: '#' :: rest := by
    rintro rest ⟨⟨indent, -, rfl⟩, -⟩
    rw [List.dropWhile_append_of_pos (by simp)]
    rfl
  have hsame := (hdrop h).symm.trans (hdrop h')
  simpa using hsame

lemma headingOf?_eq_some_iff_hasMark {line heading : Text} :
    headingOf? line = some heading ↔ ∃ rest, HasMark line rest ∧ heading = trim rest := by
  rw [headingOf?_eq_some_iff]
  constructor
  · rintro ⟨indent, hindent, rest, hline, hsign, hheading⟩
    exact ⟨rest, ⟨⟨indent, hindent, hline⟩, hsign⟩, hheading⟩
  · rintro ⟨rest, ⟨⟨indent, hindent, hline⟩, hsign⟩, hheading⟩
    exact ⟨indent, hindent, rest, hline, hsign, hheading⟩

lemma headingOf?_eq_none_iff {line : Text} : headingOf? line = none ↔ ¬ IsHeadingLine line := by
  rw [Option.eq_none_iff_forall_ne_some]
  constructor
  · rintro h ⟨rest, hrest⟩
    exact h _ (headingOf?_eq_some_iff_hasMark.mpr ⟨rest, hrest, rfl⟩)
  · intro h heading hheading
    obtain ⟨rest, hrest, -⟩ := headingOf?_eq_some_iff_hasMark.mp hheading
    exact h ⟨rest, hrest⟩

instance : DecidablePred IsHeadingLine := fun line =>
  decidable_of_iff (headingOf? line ≠ none) (by rw [ne_eq, headingOf?_eq_none_iff, not_not])

/-! ### Parts -/

/-- A heading line, what it has behind its mark, and the lines below it, which are no heading
lines. -/
@[ext]
structure Part where
  line : Text
  rest : Text
  below : List Text
  hasMark : HasMark line rest
  plain : ∀ l ∈ below, ¬ IsHeadingLine l

namespace Part

/-- The lines of a part. -/
def lines (p : Part) : List Text :=
  p.line :: p.below

/-- The section that a part makes. -/
def toSection (p : Part) : Section :=
  ⟨trim p.rest, trim (unlines p.below)⟩

lemma isHeadingLine (p : Part) : IsHeadingLine p.line :=
  ⟨p.rest, p.hasMark⟩

lemma headingOf?_line (p : Part) : headingOf? p.line = some (trim p.rest) :=
  headingOf?_eq_some_iff_hasMark.mpr ⟨p.rest, p.hasMark, rfl⟩

end Part

/-- Lines that are no heading lines, in front of parts, are those before the first heading line. -/
lemma takeWhile_append_parts {front : List Text} (hfront : ∀ l ∈ front, ¬ IsHeadingLine l)
    (parts : List Part) :
    (front ++ parts.flatMap Part.lines).takeWhile (fun l => ¬ IsHeadingLine l) = front := by
  rw [List.takeWhile_append_of_pos (by simpa using hfront)]
  cases parts with
  | nil => simp
  | cons p parts => simp [Part.lines, p.isHeadingLine]

/-- Lines that are no heading lines, and the lines of the parts after them, are determined by the
lines that they make together. -/
lemma append_parts_inj {front front' : List Text} (hfront : ∀ l ∈ front, ¬ IsHeadingLine l)
    (hfront' : ∀ l ∈ front', ¬ IsHeadingLine l) {parts parts' : List Part}
    (h : front ++ parts.flatMap Part.lines = front' ++ parts'.flatMap Part.lines) :
    front = front' ∧ parts.flatMap Part.lines = parts'.flatMap Part.lines := by
  have hsame : front = front' := by
    rw [← takeWhile_append_parts hfront parts, h, takeWhile_append_parts hfront']
  subst hsame
  exact ⟨rfl, List.append_cancel_left h⟩

/-- **Lines are cut into parts in one way.** -/
lemma flatMap_lines_inj {parts parts' : List Part}
    (h : parts.flatMap Part.lines = parts'.flatMap Part.lines) : parts = parts' := by
  induction parts generalizing parts' with
  | nil =>
      cases parts' with
      | nil => rfl
      | cons p' parts' => simp [Part.lines] at h
  | cons p parts ih =>
      cases parts' with
      | nil => simp [Part.lines] at h
      | cons p' parts' =>
          obtain ⟨hline, hbelow⟩ := List.cons.inj h
          obtain ⟨hbelow, hparts⟩ := append_parts_inj p.plain p'.plain hbelow
          have hrest : p.rest = p'.rest := p.hasMark.unique (hline ▸ p'.hasMark)
          rw [Part.ext hline hrest hbelow, ih hparts]

/-- The heading lines are the first lines of the parts. -/
lemma filter_append_parts {front : List Text} (hfront : ∀ l ∈ front, ¬ IsHeadingLine l)
    (parts : List Part) :
    (front ++ parts.flatMap Part.lines).filter (fun l => IsHeadingLine l) =
      parts.map Part.line := by
  have hplain : ∀ {ls : List Text}, (∀ l ∈ ls, ¬ IsHeadingLine l) →
      ls.filter (fun l => IsHeadingLine l) = [] := fun hls =>
    List.filter_eq_nil_iff.mpr fun l hl => by simpa using hls l hl
  rw [List.filter_append, hplain hfront, List.nil_append]
  induction parts with
  | nil => rfl
  | cons p parts ih =>
      rw [List.flatMap_cons, List.filter_append, ih, Part.lines,
        List.filter_cons_of_pos (by simpa using p.isHeadingLine), hplain p.plain]
      rfl

/-- Segmentation of parts gives the heading and the lines of each. -/
lemma segment_flatMap_lines (parts : List Part) :
    segment (parts.flatMap Part.lines) = ([], parts.map fun p => (trim p.rest, p.below)) := by
  induction parts with
  | nil => rfl
  | cons p parts ih =>
      have hbelow : segment p.below = (p.below, []) :=
        segment_of_lines fun l hl => headingOf?_eq_none_iff.mpr (p.plain l hl)
      have hfront : (segment (parts.flatMap Part.lines)).1 = [] := by rw [ih]
      rw [List.flatMap_cons, Part.lines, List.cons_append, segment_heading p.headingOf?_line,
        segment_append hfront, hbelow, ih]
      rfl

/-! ### Partitions -/

/-- Lines cut at the heading lines: the lines before the first of them, and the part that each of
them begins. Together these are the lines, in order. -/
@[ext]
structure Partition (ls : List Text) where
  front : List Text
  parts : List Part
  plain : ∀ l ∈ front, ¬ IsHeadingLine l
  joined : front ++ parts.flatMap Part.lines = ls

namespace Partition

variable {ls : List Text}

/-- The document that the parts make. -/
def document (p : Partition ls) : Document :=
  ⟨trim (unlines p.front), p.parts.map Part.toSection⟩

/-- The partition of no lines. -/
def nil : Partition [] :=
  ⟨[], [], by simp, rfl⟩

/-- A line that is no heading line, before the lines of a partition. -/
def consPlain (p : Partition ls) {l : Text} (hl : ¬ IsHeadingLine l) : Partition (l :: ls) :=
  ⟨l :: p.front, p.parts, List.forall_mem_cons.mpr ⟨hl, p.plain⟩, by
    rw [List.cons_append, p.joined]⟩

/-- A heading line, above the lines of a partition. -/
def consHeading (p : Partition ls) {l rest : Text} (hl : HasMark l rest) : Partition (l :: ls) :=
  ⟨[], ⟨l, rest, p.front, hl, p.plain⟩ :: p.parts, by simp, congrArg (l :: ·) p.joined⟩

/-- Every list of lines has a partition. -/
lemma exists_partition (ls : List Text) : Nonempty (Partition ls) := by
  induction ls with
  | nil => exact ⟨nil⟩
  | cons l ls ih =>
      obtain ⟨p⟩ := ih
      by_cases hl : IsHeadingLine l
      · obtain ⟨rest, hrest⟩ := hl
        exact ⟨p.consHeading hrest⟩
      · exact ⟨p.consPlain hl⟩

/-- **There is one partition of the lines.** -/
lemma unique (p q : Partition ls) : p = q := by
  obtain ⟨hfront, hlines⟩ := append_parts_inj p.plain q.plain (p.joined.trans q.joined.symm)
  exact Partition.ext hfront (flatMap_lines_inj hlines)

/-- Segmentation gives the lines before the first section and, for each part, its heading and the
lines below it. -/
lemma segment_eq (p : Partition ls) :
    segment ls = (p.front, p.parts.map fun x => (trim x.rest, x.below)) := by
  obtain ⟨front, parts, hplain, rfl⟩ := p
  have hfront : segment front = (front, []) :=
    segment_of_lines fun l hl => headingOf?_eq_none_iff.mpr (hplain l hl)
  rw [segment_append (by rw [segment_flatMap_lines]), hfront, segment_flatMap_lines]
  rfl

lemma ofLines_eq (p : Partition ls) : ofLines ls = p.document := by
  rw [ofLines, p.segment_eq, List.map_map]
  rfl

end Partition

/-- **A document is a partition of the lines of its text.** The lines are cut in one way at the
heading lines: each of these begins a part and, but for the lines before the first of them, every
line is in one part and in its place. The preamble is made of the lines before the first part, and
every part makes a section: the heading of what its first line has behind the mark, and the body
of the lines below. -/
theorem ofText_partition (t : Text) : ∃ p : Partition (lines t), (∀ q, q = p) ∧
    p.parts.map Part.line = (lines t).filter (fun l => IsHeadingLine l) ∧
    ofText t = p.document := by
  obtain ⟨p⟩ := Partition.exists_partition (lines t)
  have hlines := filter_append_parts p.plain p.parts
  rw [p.joined] at hlines
  exact ⟨p, fun q => q.unique p, hlines.symm, (ofText_eq_ofLines t).trans p.ofLines_eq⟩

/-- A heading line below another one and one at the end of the text. -/
example : ofText "intro\n## First\n   ##Second\n#### no heading\n##" =
    ⟨"intro", [⟨"First", []⟩, ⟨"Second", "#### no heading"⟩, ⟨[], []⟩]⟩ := by
  decide

end Document

end ContractScaffold
