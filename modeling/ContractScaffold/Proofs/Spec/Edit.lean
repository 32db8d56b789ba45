/-
Edits of a document that change how it is written and not what is read from it: line ends,
the spacing and the letter case of headings, and code quotes in the headings of functions.

* `HeadingEdit`, `LineEdit`, `TextEdit`: edits of a heading, of its line and of a text.
* `ReadAlike`: headings that nothing is read by differently.
* `ContractFunction.ofHeading?_signature`: the heading of a function, read.
* `HeadingEdit.readAlike`, `LineEdit.exists_headingOf?`: an edited heading line opens a section
  that is read alike.
* `Document.exists_ofText_line`: a heading line opens one of the sections of a document, which
  the rest of the text does not see.
* `ofText_of_textEdits`: the same specification is read, and the same contract generated,
  after any number of edits.
-/
import ContractScaffold.Generation
import ContractScaffold.Proofs.Spec.Append

namespace ContractScaffold

open Text

/-! ### Edits -/

/-- A code quote as a text. -/
def codeQuote : Text := ['\x60']

/-- The heading of a function, after its word: the name as it is written, with blank space and
quotes, the parameter text in parentheses, and what follows it. -/
def signature (name parameters rest : Text) : Text :=
  name ++ '(' :: (parameters ++ ')' :: rest)

/-- The parts of a signature that is read: something stands before the first opening
parenthesis, and the first closing one after it ends the parameters. -/
structure IsSignature (name parameters : Text) : Prop where
  ne_nil : name ≠ []
  opening : '(' ∉ name
  closing : ')' ∉ parameters

/-- Edits of a heading: other letter case of a heading that fields are read by, or of the word
before a function; and code quotes around the name of a function, around its parameter text
or around both. -/
inductive HeadingEdit : Text → Text → Prop
  | fixed {heading h h' : Text} (hmem : heading ∈ Spec.fixedHeadings)
      (hh : sameLetters h heading = true) (hh' : sameLetters h' heading = true) :
      HeadingEdit h h'
  | word {w w' rest : Text} (hw : sameLetters w functionWord = true)
      (hw' : sameLetters w' functionWord = true) : HeadingEdit (w ++ rest) (w' ++ rest)
  | quoteName {w front name back parameters rest : Text}
      (hw : sameLetters w functionWord = true) (hname : Trimmed name)
      (hfront : ∀ c ∈ front, isBlank c = true) (hback : ∀ c ∈ back, isBlank c = true)
      (hread : IsSignature (front ++ name ++ back) parameters) :
      HeadingEdit (w ++ signature (front ++ name ++ back) parameters rest)
        (w ++ signature (front ++ (codeQuote ++ name ++ codeQuote) ++ back) parameters rest)
  | quoteParameters {w name front parameters back rest : Text}
      (hw : sameLetters w functionWord = true)
      (hread : IsSignature name (front ++ parameters ++ back)) :
      HeadingEdit (w ++ signature name (front ++ parameters ++ back) rest)
        (w ++ signature name (front ++ (codeQuote ++ parameters ++ codeQuote) ++ back) rest)
  | quoteBoth {w front name back parameters rest : Text}
      (hw : sameLetters w functionWord = true) (hname : Trimmed name)
      (hfront : ∀ c ∈ front, isBlank c = true) (hback : ∀ c ∈ back, isBlank c = true)
      (hread : IsSignature (front ++ name ++ back) parameters) :
      HeadingEdit (w ++ signature (front ++ name ++ back) parameters rest)
        (w ++ signature (front ++ (codeQuote ++ name) ++ back) parameters (codeQuote ++ rest))

/-- A heading line: an indentation, the mark and what follows it. -/
def markedLine (indent : Nat) (rest : Text) : Text :=
  List.replicate indent ' ' ++ '#' :: '#' :: rest

/-- Edits of a heading line: another indentation and other spaces and tabs around the heading,
of which one stays where the heading would else make the mark longer; and edits of the heading
itself. -/
inductive LineEdit : Text → Text → Prop
  | space {indent indent' : Nat} {front front' back back' h : Text} (hindent : indent ≤ 3)
      (hindent' : indent' ≤ 3) (hfront : ∀ c ∈ front ++ back, Field.isGap c = true)
      (hfront' : ∀ c ∈ front' ++ back', Field.isGap c = true)
      (hmark : front = [] → h.head? ≠ some '#') (hmark' : front' = [] → h.head? ≠ some '#') :
      LineEdit (markedLine indent (front ++ h ++ back)) (markedLine indent' (front' ++ h ++ back'))
  | heading {indent : Nat} {front back h h' : Text} (hindent : indent ≤ 3)
      (hfront : ∀ c ∈ front, isBlank c = true) (hback : ∀ c ∈ back, isBlank c = true)
      (htrimmed : Trimmed h) (hedit : HeadingEdit h h') :
      LineEdit (markedLine indent (front ++ h ++ back)) (markedLine indent (front ++ h' ++ back))

/-- Where a line can begin: at the beginning of a text or after a line feed. -/
def StartsLine (before : Text) : Prop :=
  before = [] ∨ before.getLast? = some '\n'

/-- What can follow a line: nothing, or a line end. -/
def EndsLine (after : Text) : Prop :=
  after = [] ∨ ∃ rest, after = '\n' :: rest ∨ after = '\r' :: '\n' :: rest

/-- Edits of a text: a carriage return before a line feed, a line feed more or
less at the end, and edits of a heading line. -/
inductive TextEdit : Text → Text → Prop
  | lineEnd {before after : Text} (hbefore : before.getLast? ≠ some '\r') :
      TextEdit (before ++ '\n' :: after) (before ++ '\r' :: '\n' :: after)
  | addFinal {t : Text} : TextEdit t (t ++ ['\n'])
  | dropFinal {t : Text} : TextEdit (t ++ ['\n']) t
  | line {before l l' after : Text} (hbefore : StartsLine before) (hafter : EndsLine after)
      (hline : '\n' ∉ l) (hedit : LineEdit l l') :
      TextEdit (before ++ l ++ after) (before ++ l' ++ after)

/-! ### Letters that are the same -/

/-- A character without a small form of its own is only in texts of the same letters. -/
lemma notMem_of_sameLetters {c : Char} (hc : c.toLower = c) {a b : Text}
    (hb : c ∉ b.map Char.toLower) (h : sameLetters a b = true) : c ∉ a := by
  intro ha
  rw [sameLetters, beq_iff_eq] at h
  refine hb (h ▸ ?_)
  rw [← hc]
  exact List.mem_map_of_mem ha

lemma length_of_sameLetters {a b : Text} (h : sameLetters a b = true) : a.length = b.length := by
  rw [sameLetters, beq_iff_eq] at h
  simpa using congrArg List.length h

/-- Blank characters have no other letter case. -/
lemma toLower_of_isBlank {c : Char} (hc : isBlank c = true) : c.toLower = c := by
  have hupper : ¬ c.isUpper = true := by
    intro hupper
    have hword : isWordChar c = true := by
      simp [isWordChar, Char.isAlphanum, Char.isAlpha, hupper]
    rw [isBlank_of_isWordChar hword] at hc
    exact Bool.false_ne_true hc
  have hrange : ¬ (c.val ≥ 'A'.val ∧ c.val ≤ 'Z'.val) := by
    simpa [Char.isUpper] using hupper
  rw [Char.toLower, dif_neg hrange]

/-- A text whose small letters have no blank space at their ends has none itself. -/
lemma trimmed_of_sameLetters {a b : Text} (hb : Trimmed (b.map Char.toLower))
    (h : sameLetters a b = true) : Trimmed a := by
  rw [sameLetters, beq_iff_eq] at h
  have hblank : ∀ c, isBlank c.toLower = false → isBlank c = false := by
    intro c hc
    rw [Bool.eq_false_iff]
    intro hblank
    rw [toLower_of_isBlank hblank, hblank] at hc
    exact Bool.false_ne_true hc.symm
  refine ⟨fun c hc => hblank c (hb.head _ ?_), fun c hc => hblank c (hb.last _ ?_)⟩
  · rw [← h, List.head?_map, Option.mem_def.mp hc]
    rfl
  · rw [← h, List.getLast?_map, Option.mem_def.mp hc]
    rfl

/-! ### Headings that are read alike -/

/-- Two headings that nothing is read by differently: they open the same function, or none, and
the same fields are read by them. -/
structure ReadAlike (h h' : Text) : Prop where
  function : ContractFunction.ofHeading? h' = ContractFunction.ofHeading? h
  fixed : ∀ heading ∈ Spec.fixedHeadings, sameLetters h' heading = sameLetters h heading

lemma ReadAlike.refl (h : Text) : ReadAlike h h := ⟨rfl, fun _ _ => rfl⟩

section Function

variable {w w' : Text}

lemma ne_nil_of_functionWord (hw : sameLetters w functionWord = true) : w ≠ [] := by
  rintro rfl
  exact absurd hw (by decide)

/-- Behind the word of a function, blank space is at the end of the rest alone. -/
lemma trimmed_functionWord_append (hw : sameLetters w functionWord = true) {rest : Text}
    (hrest : ∀ c ∈ rest.getLast?, isBlank c = false) : Trimmed (w ++ rest) := by
  have hne := ne_nil_of_functionWord hw
  have hword : Trimmed w := trimmed_of_sameLetters (by decide) hw
  refine ⟨fun c hc => hword.head c ?_, fun c hc => ?_⟩
  · rwa [List.head?_append_of_ne_nil _ hne] at hc
  · rcases eq_or_ne rest [] with rfl | hnil
    · rw [List.append_nil] at hc
      exact hword.last c hc
    · rw [List.getLast?_append_of_ne_nil _ hnil] at hc
      exact hrest c hc

/-- A signature ends with what follows its parameters. -/
lemma getLast?_signature (front name parameters rest : Text) :
    (front ++ signature name parameters rest).getLast? = (')' :: rest).getLast? := by
  have hsplit : front ++ signature name parameters rest =
      (front ++ name ++ '(' :: parameters) ++ ')' :: rest := by simp [signature]
  rw [hsplit, List.getLast?_append_of_ne_nil _ (by simp)]

/-- The word before a function is read in any letter case. -/
lemma ofHeading?_word (hw : sameLetters w functionWord = true)
    (hw' : sameLetters w' functionWord = true) (rest : Text) :
    ContractFunction.ofHeading? (w' ++ rest) = ContractFunction.ofHeading? (w ++ rest) := by
  have hsplit : ∀ {v : Text}, sameLetters v functionWord = true →
      (v ++ rest).take functionWord.length = v ∧ (v ++ rest).drop functionWord.length = rest := by
    intro v hv
    rw [← length_of_sameLetters hv]
    exact ⟨List.take_left, List.drop_left⟩
  obtain ⟨htake, hdrop⟩ := hsplit hw
  obtain ⟨htake', hdrop'⟩ := hsplit hw'
  rw [ContractFunction.ofHeading?, ContractFunction.ofHeading?, htake, htake', hdrop, hdrop',
    if_pos hw, if_pos hw']

/-- **The heading of a function** is read as its name, without code quotes and blank space
around it, and its parameter text without code quotes. -/
lemma ofHeading?_signature (hw : sameLetters w functionWord = true) {name parameters : Text}
    (h : IsSignature name parameters) (rest : Text) :
    ContractFunction.ofHeading? (w ++ signature name parameters rest) =
      some (trim (strip isCodeQuote (trim name)), withoutCodeQuotes parameters) := by
  have htake : (w ++ signature name parameters rest).take functionWord.length = w := by
    rw [← length_of_sameLetters hw, List.take_left]
  have hdrop : (w ++ signature name parameters rest).drop functionWord.length =
      signature name parameters rest := by
    rw [← length_of_sameLetters hw, List.drop_left]
  have hname : ∀ c ∈ name, (c != '(') = true :=
    fun c hc => bne_iff_ne.mpr fun heq => h.opening (heq ▸ hc)
  have hparameters : ∀ c ∈ parameters, (c != ')') = true :=
    fun c hc => bne_iff_ne.mpr fun heq => h.closing (heq ▸ hc)
  obtain ⟨c, chars, hcons⟩ := List.exists_cons_of_ne_nil h.ne_nil
  rw [ContractFunction.ofHeading?, htake, hdrop, if_pos hw]
  simp only [signature, takeWhile_until hname (bne_self_eq_false _), dropWhile_until hname
    (bne_self_eq_false _), takeWhile_until hparameters (bne_self_eq_false _), dropWhile_until
    hparameters (bne_self_eq_false _), after?_cons_self, Option.bind_eq_bind, Option.bind_some]
  rw [hcons]
  rfl

/-- The heading of a function is none of those that fields are read by. -/
lemma sameLetters_function_eq_false (hw : sameLetters w functionWord = true) (rest : Text)
    {heading : Text} (hmem : heading ∈ Spec.fixedHeadings) :
    sameLetters (w ++ rest) heading = false := by
  have hcolon : ∀ heading ∈ Spec.fixedHeadings, ':' ∉ heading.map Char.toLower := by decide
  have hword : ':' ∈ functionWord.map Char.toLower := by decide
  rw [sameLetters, beq_iff_eq] at hw
  rw [Bool.eq_false_iff, Ne, sameLetters, beq_iff_eq, List.map_append, hw]
  exact fun h => hcolon heading hmem (h ▸ List.mem_append_left _ hword)

/-- A heading that fields are read by opens no function. -/
lemma ofHeading?_fixed {h heading : Text} (hmem : heading ∈ Spec.fixedHeadings)
    (hh : sameLetters h heading = true) : ContractFunction.ofHeading? h = none := by
  have hword : ∀ heading ∈ Spec.fixedHeadings,
      (heading.map Char.toLower).take functionWord.length ≠ functionWord.map Char.toLower := by
    decide
  rw [sameLetters, beq_iff_eq] at hh
  rw [ContractFunction.ofHeading?, if_neg]
  rw [sameLetters, beq_iff_eq, List.map_take, hh]
  exact hword heading hmem

/-- Two signatures that are read as the same function are read alike. -/
lemma readAlike_signature (hw : sameLetters w functionWord = true)
    {name parameters name' parameters' : Text} (h : IsSignature name parameters)
    (h' : IsSignature name' parameters')
    (hname : trim (strip isCodeQuote (trim name')) = trim (strip isCodeQuote (trim name)))
    (hparameters : withoutCodeQuotes parameters' = withoutCodeQuotes parameters)
    (rest rest' : Text) :
    ReadAlike (w ++ signature name parameters rest) (w ++ signature name' parameters' rest') where
  function := by
    rw [ofHeading?_signature hw h, ofHeading?_signature hw h', hname, hparameters]
  fixed heading hmem := by
    rw [sameLetters_function_eq_false hw _ hmem, sameLetters_function_eq_false hw _ hmem]

end Function

/-! ### Code quotes -/

lemma isBlank_of_isCodeQuote {c : Char} (hc : isCodeQuote c = true) : isBlank c = false := by
  obtain rfl : c = '\x60' := by simpa [isCodeQuote] using hc
  decide

/-- A name in code quotes is read without them. -/
lemma strip_trim_quoted {a b front name back : Text} (ha : ∀ c ∈ a, isCodeQuote c = true)
    (hb : ∀ c ∈ b, isCodeQuote c = true) (hname : Trimmed name)
    (hfront : ∀ c ∈ front, isBlank c = true) (hback : ∀ c ∈ back, isBlank c = true) :
    strip isCodeQuote (trim (front ++ (a ++ name ++ b) ++ back)) =
      strip isCodeQuote (trim (front ++ name ++ back)) := by
  have hquoted : Trimmed (a ++ name ++ b) := by
    refine ⟨fun c hc => ?_, fun c hc => ?_⟩
    · rw [List.head?_append, List.head?_append, Option.mem_def, Option.or_eq_some_iff,
        Option.or_eq_some_iff] at hc
      rcases hc with (hc | ⟨-, hc⟩) | ⟨-, hc⟩
      · exact isBlank_of_isCodeQuote (ha c (List.mem_of_mem_head? hc))
      · exact hname.head c hc
      · exact isBlank_of_isCodeQuote (hb c (List.mem_of_mem_head? hc))
    · rw [List.getLast?_append, List.getLast?_append, Option.mem_def, Option.or_eq_some_iff,
        Option.or_eq_some_iff] at hc
      rcases hc with hc | ⟨-, hc | ⟨-, hc⟩⟩
      · exact isBlank_of_isCodeQuote (hb c (List.mem_of_getLast? hc))
      · exact hname.last c hc
      · exact isBlank_of_isCodeQuote (ha c (List.mem_of_getLast? hc))
  have htrim : ∀ {t : Text}, Trimmed t → trim (front ++ t ++ back) = t := fun ht =>
    (strip_surrounded hfront hback _).trans (trim_of_trimmed ht)
  rw [htrim hquoted, htrim hname, strip_surrounded ha hb]

lemma isCodeQuote_of_mem : ∀ c ∈ codeQuote, isCodeQuote c = true := by
  simp [codeQuote, isCodeQuote]

lemma withoutCodeQuotes_quoted (front parameters back : Text) :
    withoutCodeQuotes (front ++ (codeQuote ++ parameters ++ codeQuote) ++ back) =
      withoutCodeQuotes (front ++ parameters ++ back) := by
  simp [withoutCodeQuotes, codeQuote, isCodeQuote]

/-! ### Edited headings -/

namespace HeadingEdit

variable {h h' : Text}

/-- **An edited heading is read alike.** -/
lemma readAlike (hedit : HeadingEdit h h') : ReadAlike h h' := by
  cases hedit with
  | fixed hmem hh hh' =>
      refine ⟨?_, fun other _ => ?_⟩
      · rw [ofHeading?_fixed hmem hh, ofHeading?_fixed hmem hh']
      · rw [sameLetters, beq_iff_eq] at hh hh'
        rw [sameLetters, sameLetters, hh, hh']
  | word hw hw' =>
      refine ⟨ofHeading?_word hw hw' _, fun heading hmem => ?_⟩
      rw [sameLetters_function_eq_false hw _ hmem, sameLetters_function_eq_false hw' _ hmem]
  | @quoteName w front name back parameters rest hw hname hfront hback hread =>
      have hquoted : IsSignature (front ++ (codeQuote ++ name ++ codeQuote) ++ back) parameters :=
        ⟨by simp [codeQuote], by simpa [codeQuote] using hread.opening, hread.closing⟩
      exact readAlike_signature hw hread hquoted (congrArg trim (strip_trim_quoted
        isCodeQuote_of_mem isCodeQuote_of_mem hname hfront hback)) rfl rest rest
  | @quoteParameters w name front parameters back rest hw hread =>
      have hquoted : IsSignature name (front ++ (codeQuote ++ parameters ++ codeQuote) ++ back) :=
        ⟨hread.ne_nil, hread.opening, by simpa [codeQuote] using hread.closing⟩
      exact readAlike_signature hw hread hquoted rfl
        (withoutCodeQuotes_quoted front parameters back) rest rest
  | @quoteBoth w front name back parameters rest hw hname hfront hback hread =>
      have hquoted : IsSignature (front ++ (codeQuote ++ name) ++ back) parameters :=
        ⟨by simp [codeQuote], by simpa [codeQuote] using hread.opening, hread.closing⟩
      have hstrip := strip_trim_quoted (b := []) isCodeQuote_of_mem (by simp) hname hfront hback
      rw [List.append_nil] at hstrip
      exact readAlike_signature hw hread hquoted (congrArg trim hstrip) rfl rest _

/-- No edited heading begins with the sign of the mark, before or after. -/
lemma head?_ne_sign (hedit : HeadingEdit h h') : h.head? ≠ some '#' ∧ h'.head? ≠ some '#' := by
  have hword : ∀ {w rest : Text}, sameLetters w functionWord = true →
      (w ++ rest).head? ≠ some '#' := by
    intro w rest hw
    rw [List.head?_append_of_ne_nil _ (ne_nil_of_functionWord hw)]
    exact fun hc => notMem_of_sameLetters rfl (by decide) hw (List.mem_of_mem_head? hc)
  cases hedit with
  | fixed hmem hh hh' =>
      have hfixed : ∀ heading ∈ Spec.fixedHeadings, '#' ∉ heading.map Char.toLower := by decide
      exact ⟨fun hc => notMem_of_sameLetters rfl (hfixed _ hmem) hh (List.mem_of_mem_head? hc),
        fun hc => notMem_of_sameLetters rfl (hfixed _ hmem) hh' (List.mem_of_mem_head? hc)⟩
  | word hw hw' => exact ⟨hword hw, hword hw'⟩
  | quoteName hw => exact ⟨hword hw, hword hw⟩
  | quoteParameters hw => exact ⟨hword hw, hword hw⟩
  | quoteBoth hw => exact ⟨hword hw, hword hw⟩

/-- An edited heading stands on one line. -/
lemma newline_notMem (hedit : HeadingEdit h h') (hline : '\n' ∉ h) : '\n' ∉ h' := by
  cases hedit with
  | fixed hmem hh hh' =>
      have hfixed : ∀ heading ∈ Spec.fixedHeadings, '\n' ∉ heading.map Char.toLower := by decide
      exact notMem_of_sameLetters rfl (hfixed _ hmem) hh'
  | word hw hw' =>
      rw [List.mem_append, not_or] at hline ⊢
      exact ⟨notMem_of_sameLetters rfl (by decide) hw', hline.2⟩
  | quoteName => simpa [signature, codeQuote] using hline
  | quoteParameters => simpa [signature, codeQuote] using hline
  | quoteBoth => simpa [signature, codeQuote] using hline

/-- An edited heading has no blank space at its ends. -/
lemma trimmed (hedit : HeadingEdit h h') (htrimmed : Trimmed h) : Trimmed h' := by
  have hsignature : ∀ name parameters rest : Text,
      (signature name parameters rest).getLast? = (')' :: rest).getLast? := getLast?_signature []
  cases hedit with
  | fixed hmem hh hh' =>
      have hfixed : ∀ heading ∈ Spec.fixedHeadings, Trimmed (heading.map Char.toLower) := by decide
      exact trimmed_of_sameLetters (hfixed _ hmem) hh'
  | @word w w' rest hw hw' =>
      refine trimmed_functionWord_append hw' fun c hc => htrimmed.last c ?_
      have hne : rest ≠ [] := by rintro rfl; simp at hc
      rwa [List.getLast?_append_of_ne_nil _ hne]
  | quoteName hw =>
      refine trimmed_functionWord_append hw fun c hc => htrimmed.last c ?_
      rw [getLast?_signature]
      rwa [hsignature] at hc
  | quoteParameters hw =>
      refine trimmed_functionWord_append hw fun c hc => htrimmed.last c ?_
      rw [getLast?_signature]
      rwa [hsignature] at hc
  | @quoteBoth w front name back parameters rest hw =>
      refine trimmed_functionWord_append hw fun c hc => ?_
      rw [hsignature, codeQuote, List.cons_append, List.nil_append] at hc
      -- the second quote is at the end, or what was there before
      rcases eq_or_ne rest [] with rfl | hne
      · obtain rfl : '\x60' = c := by simpa using hc
        decide
      · refine htrimmed.last c ?_
        rw [getLast?_signature]
        obtain ⟨d, rest, rfl⟩ := List.exists_cons_of_ne_nil hne
        simpa using hc

end HeadingEdit

/-! ### Edited heading lines -/

lemma isBlank_of_isGap {c : Char} (hc : Field.isGap c = true) : isBlank c = true := by
  rcases (by simpa [Field.isGap] using hc : c = ' ' ∨ c = '\t') with rfl | rfl <;> decide

lemma headingOf?_markedLine {indent : Nat} (hindent : indent ≤ 3) {rest : Text}
    (hmark : rest.head? ≠ some '#') : headingOf? (markedLine indent rest) = some (trim rest) :=
  headingOf?_eq_some_iff.mpr ⟨indent, hindent, rest, rfl, hmark, rfl⟩

/-- What is blank around a heading does not make the mark longer, if there is something before
the heading where it begins with the sign of the mark. -/
lemma head?_surrounded_ne_sign {front back h : Text} (hfront : ∀ c ∈ front, isBlank c = true)
    (hback : ∀ c ∈ back, isBlank c = true) (hmark : front = [] → h.head? ≠ some '#') :
    (front ++ h ++ back).head? ≠ some '#' := by
  have hsign : isBlank '#' ≠ true := by decide
  rw [List.append_assoc]
  rcases front with _ | ⟨c, front⟩
  · rcases h with _ | ⟨c, h⟩
    · exact fun hc => hsign (hback _ (List.mem_of_mem_head? hc))
    · exact hmark rfl
  · exact fun hc => hsign (hfront _ (List.mem_of_mem_head? (by simpa using hc)))

namespace LineEdit

variable {l l' : Text}

/-- **An edited heading line opens a section** whose heading is read alike. -/
lemma exists_headingOf? (hedit : LineEdit l l') : ∃ h h', headingOf? l = some h ∧
    headingOf? l' = some h' ∧ ReadAlike h h' := by
  cases hedit with
  | @space indent indent' front front' back back' h hindent hindent' hgaps hgaps' hmark hmark' =>
      obtain ⟨hfront, hback⟩ := List.forall_mem_append.mp fun c hc => isBlank_of_isGap (hgaps c hc)
      obtain ⟨hfront', hback'⟩ := List.forall_mem_append.mp fun c hc =>
        isBlank_of_isGap (hgaps' c hc)
      refine ⟨trim h, trim h, ?_, ?_, .refl _⟩
      · rw [headingOf?_markedLine hindent (head?_surrounded_ne_sign hfront hback hmark), trim,
          strip_surrounded hfront hback, trim]
      · rw [headingOf?_markedLine hindent' (head?_surrounded_ne_sign hfront' hback' hmark'), trim,
          strip_surrounded hfront' hback', trim]
  | @heading indent front back h h' hindent hfront hback htrimmed hedit =>
      obtain ⟨hmark, hmark'⟩ := hedit.head?_ne_sign
      have hhead : ∀ {h : Text}, Trimmed h → h.head? ≠ some '#' →
          headingOf? (markedLine indent (front ++ h ++ back)) = some h := by
        intro h htrimmed hmark
        rw [headingOf?_markedLine hindent
          (head?_surrounded_ne_sign hfront hback fun _ => hmark), trim,
          strip_surrounded hfront hback, ← trim, trim_of_trimmed htrimmed]
      exact ⟨h, h', hhead htrimmed hmark, hhead (hedit.trimmed htrimmed) hmark', hedit.readAlike⟩

/-- An edited line is one line. -/
lemma newline_notMem (hedit : LineEdit l l') (hline : '\n' ∉ l) : '\n' ∉ l' := by
  cases hedit with
  | @space _ _ _ front' _ back' _ _ _ _ hgaps' =>
      have hgap : Field.isGap '\n' ≠ true := by decide
      have hnew : '\n' ∉ front' ++ back' := fun hc => hgap (hgaps' _ hc)
      simp only [markedLine, List.mem_append, List.mem_cons, not_or] at hline hnew ⊢
      refine ⟨by simp, hline.2.1, hline.2.2.1, ⟨hnew.1, ?_⟩, hnew.2⟩
      exact hline.2.2.2.1.2
  | heading hindent hfront hback htrimmed hedit =>
      simp only [markedLine, List.mem_append, List.mem_cons, not_or] at hline ⊢
      obtain ⟨hspaces, hsign, hsign', ⟨hfront, hh⟩, hback⟩ := hline
      exact ⟨hspaces, hsign, hsign', ⟨hfront, hedit.newline_notMem hh⟩, hback⟩

end LineEdit

/-! ### A heading line in a text -/

/-- The lines before the beginning of a line are cut off on their own. -/
lemma StartsLine.exists_lines {before : Text} (h : StartsLine before) :
    ∃ ls, ∀ rest, lines (before ++ rest) = ls ++ lines rest := by
  rcases h with rfl | hlast
  · exact ⟨[], fun _ => rfl⟩
  · obtain ⟨front, rfl⟩ := List.getLast?_eq_some_iff.mp hlast
    refine ⟨(front.splitOn '\n').map dropReturn, fun rest => ?_⟩
    rw [List.append_assoc, List.singleton_append, lines_append_break]

/-- The lines behind a heading line do not depend on it, and the line still opens its section. -/
lemma EndsLine.exists_lines {after : Text} (h : EndsLine after) :
    ∃ ls, ∀ l heading, '\n' ∉ l → headingOf? l = some heading →
      ∃ k, lines (l ++ after) = k :: ls ∧ headingOf? k = some heading := by
  have hbreak : ∀ (l rest : Text), '\n' ∉ l →
      lines (l ++ '\n' :: rest) = dropReturn l :: lines rest := fun l rest hline => by
    rw [lines_append_break, List.splitOn_eq_singleton hline]
    rfl
  rcases h with rfl | ⟨rest, rfl | rfl⟩
  · refine ⟨[], fun l heading hline hl => ⟨l, ?_, hl⟩⟩
    have hne : l ≠ [] := by
      rintro rfl
      cases hl
    rw [List.append_nil, lines, List.splitOn_eq_singleton hline, linesOfPieces]
    simp [hne]
  · exact ⟨lines rest, fun l heading hline hl =>
      ⟨dropReturn l, hbreak l rest hline, (headingOf?_dropReturn l).trans hl⟩⟩
  · refine ⟨lines rest, fun l heading hline hl => ⟨dropReturn (l ++ ['\r']), ?_, ?_⟩⟩
    · rw [← hbreak _ rest (by simpa using hline), List.append_assoc, List.singleton_append]
    · rw [headingOf?_dropReturn, headingOf?_append_blank isBlank_return, hl]

/-- **A heading line opens one of the sections** of a text, which are the same but for its
heading whatever heading it has. -/
lemma Document.exists_ofText_line {before after : Text} (hbefore : StartsLine before)
    (hafter : EndsLine after) : ∃ (preamble : Text) (front : List Section) (body : Text)
      (rear : List Section), ∀ l heading, '\n' ∉ l → headingOf? l = some heading →
        Document.ofText (before ++ l ++ after) =
          ⟨preamble, front ++ ⟨heading, body⟩ :: rear⟩ := by
  obtain ⟨ls, hls⟩ := hbefore.exists_lines
  obtain ⟨ms, hms⟩ := hafter.exists_lines
  refine ⟨(Document.ofLines ls).preamble, (Document.ofLines ls).sections,
    Document.block (segment ms).1, (segment ms).2.map fun s => ⟨s.1, Document.block s.2⟩, ?_⟩
  intro l heading hline hl
  obtain ⟨k, hk, hheading⟩ := hms l heading hline hl
  have hsegment := segment_heading hheading ms
  rw [Document.ofText_eq_ofLines, List.append_assoc, hls, hk,
    Document.ofLines_append (by rw [hsegment])]
  simp only [Document.ofLines, hsegment, List.map_cons]

/-- Nothing is read differently from a document with a heading that is read alike. -/
lemma ReadAlike.ofDocument_eq {h h' : Text} (hread : ReadAlike h h') (preamble body : Text)
    (front rear : List Section) :
    Spec.ofDocument ⟨preamble, front ++ ⟨h', body⟩ :: rear⟩ =
      Spec.ofDocument ⟨preamble, front ++ ⟨h, body⟩ :: rear⟩ := by
  have hbody : ∀ heading ∈ Spec.fixedHeadings,
      Document.body ⟨preamble, front ++ ⟨h', body⟩ :: rear⟩ heading =
        Document.body ⟨preamble, front ++ ⟨h, body⟩ :: rear⟩ heading := by
    intro heading hmem
    have htrim := trim_of_trimmed (Spec.tidy_of_mem_fixedHeadings heading hmem).toTrimmed
    simp only [Document.body, Document.section?, List.find?_append, List.find?_cons, htrim,
      hread.fixed heading hmem]
    cases front.find? (fun s => sameLetters s.heading heading) with
    | some s => rfl
    | none => cases sameLetters h heading <;> rfl
  have hfunctions : Document.functions ⟨preamble, front ++ ⟨h', body⟩ :: rear⟩ =
      Document.functions ⟨preamble, front ++ ⟨h, body⟩ :: rear⟩ := by
    have hsection : ContractFunction.ofSection? ⟨h', body⟩ =
        ContractFunction.ofSection? ⟨h, body⟩ := by
      simp only [ContractFunction.ofSection?, hread.function]
    simp only [Document.functions, List.filterMap_append, List.filterMap_cons, hsection]
  simp only [Spec.ofDocument, Document.contractName, Document.stateInvariants, hfunctions,
    hbody contractNameHeading (by simp [Spec.fixedHeadings]),
    hbody securityHeading (by simp [Spec.fixedHeadings]),
    hbody stateVariablesHeading (by simp [Spec.fixedHeadings]),
    hbody eventsHeading (by simp [Spec.fixedHeadings]),
    hbody invariantsHeading (by simp [Spec.fixedHeadings])]

/-! ### Edited texts -/

/-- A carriage return before a line feed belongs to the end of the line. -/
lemma lines_append_return {before : Text} (hbefore : before.getLast? ≠ some '\r') (after : Text) :
    lines (before ++ '\r' :: '\n' :: after) = lines (before ++ '\n' :: after) := by
  have hline : ∀ {l : Text}, l.getLast? ≠ some '\r' → dropReturn (l ++ ['\r']) = dropReturn l := by
    intro l hl
    rw [dropReturn, dropReturn, if_pos List.getLast?_concat, if_neg hl, List.dropLast_concat]
  have hsplit : before ++ '\r' :: '\n' :: after = (before ++ ['\r']) ++ '\n' :: after := by simp
  rw [hsplit, lines_append_break, lines_append_break]
  congr 1
  -- only the last line of the text before is longer
  by_cases hmem : '\n' ∈ before
  · obtain ⟨back, front, hreverse, hback⟩ := List.eq_append_cons_of_mem (List.mem_reverse.mpr hmem)
    obtain ⟨above, last, rfl, hlast⟩ : ∃ above last : Text, before = above ++ '\n' :: last ∧
        '\n' ∉ last := by
      refine ⟨front.reverse, back.reverse, ?_, by simpa using hback⟩
      rw [← List.reverse_reverse before, hreverse]
      simp
    have hreturn : last.getLast? ≠ some '\r' := by
      intro h
      refine hbefore ?_
      rw [List.getLast?_append_of_ne_nil _ (by simp), List.getLast?_cons, h]
      rfl
    have hlonger : '\n' ∉ last ++ ['\r'] := by simpa using hlast
    rw [List.append_assoc, List.cons_append, List.splitOn_append_cons_self,
      List.splitOn_append_cons_self, List.splitOn_eq_singleton hlast,
      List.splitOn_eq_singleton hlonger, List.map_append, List.map_append, List.map_singleton,
      List.map_singleton, hline hreturn]
  · rw [List.splitOn_eq_singleton hmem, List.splitOn_eq_singleton (by simpa using hmem),
      List.map_singleton, List.map_singleton, hline hbefore]

/-- A line feed at the end of a text changes nothing about its document. -/
lemma Document.ofText_concat_newline (t : Text) : Document.ofText (t ++ ['\n']) = ofText t := by
  obtain ⟨ps, p, hsplit, hlines⟩ := exists_lines_eq t
  have hwhole : lines (t ++ ['\n']) = ps.map dropReturn ++ [dropReturn p] := by
    rw [lines_append_break t [], hsplit, List.map_append, List.map_singleton]
    exact List.append_nil _
  rw [ofText_eq_ofLines, hwhole, ofLines_lastLine, ← hlines, ofText_eq_ofLines]

/-- **One edit changes nothing that is read.** -/
lemma TextEdit.ofText_eq {t t' : Text} (hedit : TextEdit t t') :
    Spec.ofText t' = Spec.ofText t := by
  cases hedit with
  | lineEnd hbefore =>
      rw [Spec.ofText, Spec.ofText, Document.ofText_eq_ofLines, Document.ofText_eq_ofLines,
        lines_append_return hbefore]
  | addFinal => rw [Spec.ofText, Spec.ofText, Document.ofText_concat_newline]
  | dropFinal => rw [Spec.ofText, Spec.ofText, Document.ofText_concat_newline]
  | line hbefore hafter hline hedit =>
      obtain ⟨h, h', hl, hl', hread⟩ := hedit.exists_headingOf?
      obtain ⟨preamble, front, body, rear, hdocument⟩ :=
        Document.exists_ofText_line hbefore hafter
      rw [Spec.ofText, Spec.ofText, hdocument _ _ hline hl,
        hdocument _ _ (hedit.newline_notMem hline) hl', hread.ofDocument_eq]

/-- **Edits change nothing that is read.** After any number of edits, in any order, the same
specification is read from a text, and the same contract with the same digest is generated
from it, whatever templates there are. -/
theorem ofText_of_textEdits {t t' : Text} (hedits : Relation.ReflTransGen TextEdit t t') :
    Spec.ofText t' = Spec.ofText t ∧
      ∀ {n : Type → Type} [Monad n] (load : Text → n Text) (requested : Option Text),
        generate load t' requested = generate load t requested := by
  have hspec : Spec.ofText t' = Spec.ofText t := by
    induction hedits with
    | refl => rfl
    | tail _ hedit ih => exact hedit.ofText_eq.trans ih
  refine ⟨hspec, fun load requested => ?_⟩
  rw [generate, generate, hspec]

/-- A text with the heading of a field and that of a function. -/
def plainText : Text := "##Events\n## Function: f (uint x)"

/-- That text after edits of every kind. -/
def editedText : Text := "  ## EVENTS\t\r\n## FUNCTION: \x60f\x60 (\x60uint x\x60)\n"

lemma textEdits_plainText : Relation.ReflTransGen TextEdit plainText editedText := by
  have hone : ∀ c ∈ ([' '] : Text), isBlank c = true := by simp [isBlank_space]
  have htab : ∀ c ∈ (['\t'] : Text), isBlank c = true :=
    fun c hc => isBlank_of_isGap (by rw [List.mem_singleton.mp hc]; rfl)
  have hnone : ∀ c ∈ ([] : Text), isBlank c = true := by simp
  have hspace : LineEdit (markedLine 0 ([] ++ ("Events" : Text) ++ []))
      (markedLine 2 ([' '] ++ ("Events" : Text) ++ ['\t'])) :=
    .space (by decide) (by decide) (by simp) (by simp [Field.isGap]) (by decide) (by decide)
  have hfixed : LineEdit (markedLine 2 ([' '] ++ ("Events" : Text) ++ ['\t']))
      (markedLine 2 ([' '] ++ ("EVENTS" : Text) ++ ['\t'])) :=
    .heading (by decide) hone htab (by decide)
      (.fixed (show eventsHeading ∈ Spec.fixedHeadings by decide) (by decide) (by decide))
  have hword : LineEdit
      (markedLine 0 ([' '] ++ (("Function:" : Text) ++ (" f (uint x)" : Text)) ++ []))
      (markedLine 0 ([' '] ++ (("FUNCTION:" : Text) ++ (" f (uint x)" : Text)) ++ [])) :=
    .heading (by decide) hone hnone (by decide) (.word (by decide) (by decide))
  have hname : LineEdit
      (markedLine 0 ([' '] ++ (("FUNCTION:" : Text) ++
        signature ([' '] ++ ['f'] ++ [' ']) "uint x" []) ++ []))
      (markedLine 0 ([' '] ++ (("FUNCTION:" : Text) ++
        signature ([' '] ++ (codeQuote ++ ['f'] ++ codeQuote) ++ [' ']) "uint x" []) ++ [])) :=
    .heading (by decide) hone hnone (by decide)
      (.quoteName (by decide) (by decide) hone hone
        ⟨by decide, by decide, by decide⟩)
  have hparameters : LineEdit
      (markedLine 0 ([' '] ++ (("FUNCTION:" : Text) ++
        signature " \x60f\x60 " ([] ++ ("uint x" : Text) ++ []) []) ++ []))
      (markedLine 0 ([' '] ++ (("FUNCTION:" : Text) ++
        signature " \x60f\x60 " ([] ++ (codeQuote ++ ("uint x" : Text) ++ codeQuote) ++ []) []) ++
          [])) :=
    .heading (by decide) hone hnone (by decide)
      (.quoteParameters (by decide) ⟨by decide, by decide, by decide⟩)
  have hfirst : ∀ {l l' : Text}, '\n' ∉ l → LineEdit l l' →
      TextEdit ([] ++ l ++ ("\n## Function: f (uint x)" : Text))
        ([] ++ l' ++ ("\n## Function: f (uint x)" : Text)) :=
    fun hline hedit => .line (.inl rfl) (.inr ⟨_, .inl rfl⟩) hline hedit
  have hsecond : ∀ {l l' : Text}, '\n' ∉ l → LineEdit l l' →
      TextEdit (("  ## EVENTS\t\n" : Text) ++ l ++ []) (("  ## EVENTS\t\n" : Text) ++ l' ++ []) :=
    fun hline hedit => .line (.inr rfl) (.inl rfl) hline hedit
  have hend : TextEdit
      (("  ## EVENTS\t" : Text) ++ '\n' :: ("## FUNCTION: \x60f\x60 (\x60uint x\x60)" : Text))
      (("  ## EVENTS\t" : Text) ++
        '\r' :: '\n' :: ("## FUNCTION: \x60f\x60 (\x60uint x\x60)" : Text)) :=
    .lineEnd (by decide)
  exact ((((((Relation.ReflTransGen.single (hfirst (by decide) hspace)).tail
    (hfirst (by decide) hfixed)).tail (hsecond (by decide) hword)).tail
    (hsecond (by decide) hname)).tail (hsecond (by decide) hparameters)).tail hend).tail .addFinal

/-- The same function is read from both texts. -/
theorem ofText_of_textEdits_plainText :
    Relation.ReflTransGen TextEdit plainText editedText ∧
      Spec.ofText editedText = Spec.ofText plainText ∧
      (Spec.ofText editedText).functions =
        [⟨"f", [], [⟨"uint", "x"⟩], [], [], [], [], []⟩] := by
  have hspec := (ofText_of_textEdits textEdits_plainText).1
  refine ⟨textEdits_plainText, hspec, ?_⟩
  rw [hspec]
  decide

end ContractScaffold
