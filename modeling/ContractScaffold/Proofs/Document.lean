/-
Documents as the outcome of cutting lines into sections: which lines open a
section, and what a document keeps when another text follows.

* `headingOf?_eq_some_iff`: the lines that open a section, and their headings;
  `headingOf?_append_blank`: blank space behind a line changes nothing about them.
* `segment_append`, `ofLines_append`: lines after which a heading line comes are
  segmented on their own.
* `ofLines_lastLine`: neither a carriage return at the end of the last line nor an
  empty last line changes the document.
* `ofText_append_break`: the document of two texts with a line feed between them,
  where the second opens a section.
* `body_append`: the text under a heading is the first document's where that has
  the heading.
* `newline_notMem_heading`: a heading stands on one line.
-/
import ContractScaffold.Document
import ContractScaffold.Proofs.Text.Lines

namespace ContractScaffold

open Text

/-! ### Heading lines -/

/-- A line opens a section where at most three spaces, two number signs and no
third one begin it; the heading is the rest without blank space at its ends. -/
lemma headingOf?_eq_some_iff {l h : Text} : headingOf? l = some h ↔
    ∃ n ≤ 3, ∃ rest : Text, l = List.replicate n ' ' ++ '#' :: '#' :: rest ∧
      rest.head? ≠ some '#' ∧ h = trim rest := by
  constructor
  · intro hl
    have hspaces : l.takeWhile (· == ' ')
        = List.replicate (l.takeWhile (· == ' ')).length ' ' :=
      List.eq_replicate_of_mem fun c hc => by simpa using List.mem_takeWhile_imp hc
    have hsplit := l.takeWhile_append_dropWhile (p := (· == ' '))
    rw [headingOf?] at hl
    split_ifs at hl with hlen
    split at hl
    · next rest hrest =>
        split_ifs at hl with hsign
        refine ⟨_, hlen, rest, ?_, hsign, (Option.some.inj hl).symm⟩
        rw [← hspaces, ← hrest, hsplit]
    · exact absurd hl (by simp)
  · rintro ⟨n, hn, rest, rfl, hsign, rfl⟩
    have htake : (List.replicate n ' ' ++ '#' :: '#' :: rest).takeWhile (· == ' ')
        = List.replicate n ' ' := by
      rw [List.takeWhile_append_of_pos (by simp)]
      simp
    have hdrop : (List.replicate n ' ' ++ '#' :: '#' :: rest).dropWhile (· == ' ')
        = '#' :: '#' :: rest := by
      rw [List.dropWhile_append_of_pos (by simp)]
      simp
    simp [headingOf?, htake, hdrop, hn, hsign]

/-- Blank space behind a line changes nothing about the heading that it opens. -/
lemma headingOf?_append_blank {c : Char} (hc : isBlank c = true) (l : Text) :
    headingOf? (l ++ [c]) = headingOf? l := by
  have hsign : c ≠ '#' := by rintro rfl; revert hc; decide
  have htrim : ∀ rest : Text, trim (rest ++ [c]) = trim rest :=
    fun rest => trim_append_of_blank (by simp [hc]) rest
  ext h
  rw [headingOf?_eq_some_iff, headingOf?_eq_some_iff]
  constructor
  · rintro ⟨n, hn, rest, hl, hrest, rfl⟩
    rcases List.eq_nil_or_concat' rest with rfl | ⟨u, d, rfl⟩
    · have hlast := congrArg List.getLast? hl
      simp [hsign] at hlast
    · have hl' : l ++ [c] = (List.replicate n ' ' ++ '#' :: '#' :: u) ++ [d] := by simp [hl]
      obtain ⟨rfl, hd⟩ := List.append_inj' hl' rfl
      obtain rfl : c = d := by simpa using hd
      refine ⟨n, hn, u, rfl, ?_, htrim u⟩
      cases u with
      | nil => simp
      | cons d u => simpa using hrest
  · rintro ⟨n, hn, rest, rfl, hrest, rfl⟩
    refine ⟨n, hn, rest ++ [c], by simp, ?_, (htrim rest).symm⟩
    cases rest with
    | nil => simpa using hsign
    | cons d rest => simpa using hrest

lemma headingOf?_dropReturn (l : Text) : headingOf? (dropReturn l) = headingOf? l := by
  obtain ⟨r, hl, hr⟩ := exists_dropReturn_append l
  rcases hr with rfl | rfl
  · rw [List.append_nil] at hl
    rw [← hl]
  · conv_rhs => rw [hl]
    exact (headingOf?_append_blank (by decide) _).symm

/-- A line that begins with neither a space nor a number sign opens no section. -/
lemma headingOf?_cons_eq_none {c : Char} (hspace : c ≠ ' ') (hsign : c ≠ '#') (l : Text) :
    headingOf? (c :: l) = none := by
  rw [Option.eq_none_iff_forall_ne_some]
  intro h hl
  obtain ⟨n, -, rest, hrest, -⟩ := headingOf?_eq_some_iff.mp hl
  cases n with
  | zero => exact hsign (List.cons.inj hrest).1
  | succ n => exact hspace (List.cons.inj hrest).1

/-! ### Segmentation -/

lemma segment_heading {l h : Text} (hl : headingOf? l = some h) (ls : List Text) :
    segment (l :: ls) = ([], (h, (segment ls).1) :: (segment ls).2) := by
  simp [segment, hl]

lemma segment_line {l : Text} (hl : headingOf? l = none) (ls : List Text) :
    segment (l :: ls) = (l :: (segment ls).1, (segment ls).2) := by
  simp [segment, hl]

/-- Without a heading line there is no section. -/
lemma segment_of_lines {ls : List Text} (hls : ∀ l ∈ ls, headingOf? l = none) :
    segment ls = (ls, []) := by
  induction ls with
  | nil => rfl
  | cons l ls ih =>
      rw [segment_line (hls l (by simp)), ih fun m hm => hls m (List.mem_cons_of_mem l hm)]

/-- Lines that come before a heading line are segmented on their own. -/
lemma segment_append {ms : List Text} (hms : (segment ms).1 = []) (ls : List Text) :
    segment (ls ++ ms) = ((segment ls).1, (segment ls).2 ++ (segment ms).2) := by
  induction ls with
  | nil => exact Prod.ext hms rfl
  | cons l ls ih =>
      cases hl : headingOf? l with
      | none => rw [List.cons_append, segment_line hl, segment_line hl, ih]
      | some h => rw [List.cons_append, segment_heading hl, segment_heading hl, ih]; rfl

/-- The lines of a section come from the lines that are segmented, and so do the
heading lines. -/
lemma exists_mem_of_mem_segment {ls : List Text} {s : Text × List Text}
    (hs : s ∈ (segment ls).2) : ∃ l ∈ ls, headingOf? l = some s.1 := by
  induction ls with
  | nil => simp [segment] at hs
  | cons l ls ih =>
      cases hl : headingOf? l with
      | none =>
          rw [segment_line hl] at hs
          obtain ⟨m, hm, hh⟩ := ih hs
          exact ⟨m, List.mem_cons_of_mem l hm, hh⟩
      | some h =>
          rw [segment_heading hl] at hs
          rcases List.mem_cons.mp hs with rfl | hs
          · exact ⟨l, List.mem_cons_self, hl⟩
          · obtain ⟨m, hm, hh⟩ := ih hs
            exact ⟨m, List.mem_cons_of_mem l hm, hh⟩

namespace Document

/-- The document of some lines. -/
def ofLines (ls : List Text) : Document :=
  ⟨block (segment ls).1, (segment ls).2.map fun s => ⟨s.1, block s.2⟩⟩

lemma ofText_eq_ofLines (t : Text) : ofText t = ofLines (lines t) := rfl

/-- The document of lines before a heading line and of the lines from there. -/
lemma ofLines_append {ms : List Text} (hms : (segment ms).1 = []) (ls : List Text) :
    ofLines (ls ++ ms)
      = ⟨(ofLines ls).preamble, (ofLines ls).sections ++ (ofLines ms).sections⟩ := by
  rw [ofLines, segment_append hms, List.map_append]
  rfl

/-- Blank space behind the last line of a block does not count. -/
lemma block_concat_blank (ls : List Text) {l r : Text} (hr : ∀ c ∈ r, isBlank c = true) :
    block (ls ++ [l ++ r]) = block (ls ++ [l]) := by
  rw [block, block, unlines_concat_append, trim_append_of_blank hr]

/-- An empty last line of a block does not count. -/
lemma block_concat_nil (ls : List Text) : block (ls ++ [[]]) = block ls := by
  rcases List.eq_nil_or_concat' ls with rfl | ⟨ks, k, rfl⟩
  · rfl
  · rw [block, block, unlines_concat_nil, trim_append_of_blank (by simp [isBlank_newline])]

/-- Two tails of lines that no document tells apart: their first parts add the same
to every block, and their sections are the same. -/
structure SameTail (us vs : List Text) : Prop where
  front : ∀ ks : List Text, block (ks ++ (segment us).1) = block (ks ++ (segment vs).1)
  sections : (ofLines us).sections = (ofLines vs).sections

/-- Lines before two such tails do not tell them apart either. -/
lemma SameTail.append {us vs : List Text} (h : SameTail us vs) (ls : List Text) :
    SameTail (ls ++ us) (ls ++ vs) := by
  induction ls with
  | nil => exact h
  | cons l ls ih =>
      cases hl : headingOf? l with
      | none =>
          refine ⟨fun ks => ?_, ?_⟩
          · have hfront := ih.front (ks ++ [l])
            rw [List.cons_append, List.cons_append, segment_line hl, segment_line hl]
            simpa using hfront
          · have hsections := ih.sections
            simpa [ofLines, segment_line hl] using hsections
      | some h =>
          refine ⟨fun ks => ?_, ?_⟩
          · rw [List.cons_append, List.cons_append, segment_heading hl, segment_heading hl]
          · have hfront := ih.front []
            have hsections := ih.sections
            simp only [ofLines, List.cons_append, segment_heading hl, List.map_cons] at hsections ⊢
            rw [List.nil_append, List.nil_append] at hfront
            rw [hsections, hfront]

lemma SameTail.ofLines_eq {us vs : List Text} (h : SameTail us vs) : ofLines us = ofLines vs := by
  have hfront : (ofLines us).preamble = (ofLines vs).preamble := h.front []
  have hsections := h.sections
  cases hu : ofLines us
  cases hv : ofLines vs
  simp_all

/-- **The last line**: a carriage return at its end, or that it is empty, changes
nothing about the document. -/
lemma ofLines_lastLine (ls : List Text) (p : Text) :
    ofLines (ls ++ [dropReturn p]) = ofLines (ls ++ linesOfPieces [p]) := by
  refine (SameTail.append ?_ ls).ofLines_eq
  by_cases hp : p = []
  · subst hp
    exact ⟨fun ks => block_concat_nil ks |>.trans (by simp [linesOfPieces, segment]), rfl⟩
  · have hlines : linesOfPieces [p] = [p] := by simp [linesOfPieces, hp]
    rw [hlines]
    obtain ⟨r, hr, hblank⟩ := exists_dropReturn_append p
    have hb : ∀ c ∈ r, isBlank c = true := by
      rcases hblank with rfl | rfl
      · simp
      · simp [isBlank_return]
    cases hh : headingOf? p with
    | none =>
        have hh' : headingOf? (dropReturn p) = none := (headingOf?_dropReturn p).trans hh
        refine ⟨fun ks => ?_, ?_⟩
        · rw [segment_line hh, segment_line hh']
          have hblock := block_concat_blank ks (l := dropReturn p) hb
          rw [← hr] at hblock
          exact hblock.symm
        · simp [ofLines, segment_line hh, segment_line hh']
    | some h =>
        have hh' : headingOf? (dropReturn p) = some h := (headingOf?_dropReturn p).trans hh
        exact ⟨fun ks => by rw [segment_heading hh, segment_heading hh'],
          by simp [ofLines, segment_heading hh, segment_heading hh']⟩

/-! ### A text that opens a section -/

/-- Whether the first line of a text is a heading line. -/
def opensSection (t : Text) : Bool :=
  ((lines t).head?.bind headingOf?).isSome

lemma segment_of_opensSection {t : Text} (h : opensSection t = true) :
    (segment (lines t)).1 = [] := by
  rw [opensSection, Option.isSome_iff_exists] at h
  obtain ⟨heading, hh⟩ := h
  obtain ⟨l, hl, hheading⟩ := Option.bind_eq_some_iff.mp hh
  obtain ⟨ls, hls⟩ := List.head?_eq_some_iff.mp hl
  rw [hls, segment_heading hheading]

/-- **Documents put together**: where the second text opens a section, the document
of both has the preamble of the first, and the sections of both. -/
lemma ofText_append_break (s : Text) {t : Text} (ht : opensSection t = true) :
    ofText (s ++ '\n' :: t)
      = ⟨(ofText s).preamble, (ofText s).sections ++ (ofText t).sections⟩ := by
  obtain ⟨ps, p, hsplit, hlines⟩ := exists_lines_eq s
  have hwhole : lines (s ++ '\n' :: t) = (ps.map dropReturn ++ [dropReturn p]) ++ lines t := by
    rw [lines_append_break, hsplit, List.map_append, List.map_singleton]
  rw [ofText_eq_ofLines, hwhole, ofLines_append (segment_of_opensSection ht), ofLines_lastLine,
    ← hlines]
  rfl

/-! ### Sections under a heading -/

/-- Whether a document has a section under the heading, in any case of ASCII
letters. -/
def hasHeading (d : Document) (heading : Text) : Bool :=
  d.sections.any fun s => sameLetters s.heading heading

/-- The text under a heading is that of the first document where it has the
heading, even with nothing below it. -/
lemma body_append {heading : Text} (hheading : Trimmed heading) (preamble : Text)
    (d e : Document) :
    body ⟨preamble, d.sections ++ e.sections⟩ heading
      = if d.hasHeading heading then d.body heading else e.body heading := by
  have hfind : d.hasHeading heading = (d.section? heading).isSome := by
    rw [hasHeading, section?, trim_of_trimmed hheading, List.isSome_find?]
  rw [body, section?, List.find?_append, ← section?, ← section?, hfind]
  cases hs : d.section? heading with
  | none => simp [body]
  | some s => simp [body, hs]

/-- Sections under other headings do not count. -/
lemma body_of_others {heading : Text} {mid : List Section}
    (hmid : ∀ x ∈ mid, sameLetters x.heading (trim heading) = false) (preamble : Text)
    (front rear : List Section) :
    body ⟨preamble, front ++ mid ++ rear⟩ heading = body ⟨preamble, front ++ rear⟩ heading := by
  have hnone : mid.find? (fun x => sameLetters x.heading (trim heading)) = none :=
    List.find?_eq_none.mpr fun x hx => by simp [hmid x hx]
  simp [body, section?, List.find?_append, hnone]

/-- A heading stands on one line. -/
lemma newline_notMem_heading {t : Text} {s : Section} (hs : s ∈ (ofText t).sections) :
    '\n' ∉ s.heading := by
  obtain ⟨part, hpart, rfl⟩ := List.mem_map.mp hs
  obtain ⟨l, hl, hheading⟩ := exists_mem_of_mem_segment hpart
  obtain ⟨n, -, rest, rfl, -, hrest⟩ := headingOf?_eq_some_iff.mp hheading
  intro hc
  have hmem : '\n' ∈ rest := mem_of_mem_trim (hrest ▸ hc)
  exact newline_notMem_of_mem_lines hl (by simp [hmem])

end Document

end ContractScaffold
