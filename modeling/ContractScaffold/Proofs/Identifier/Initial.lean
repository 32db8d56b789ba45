/-
The first letter of an identifier. The words of a name begin with capitals before the characters
that an identifier cannot hold are left out, so that a small letter comes first where everything
in front of it in its word is left out.

* `addedAfter`, `wordCapitals_concat`: what one more character adds to the characters of an
  identifier.
* `BeginsSmall`, `BeginsInWord`: texts that begin with a small letter, and names whose first
  identifier character is one inside of a word; `beginsSmall_wordCapitals_iff` ties them together.
* `IsIdentifier.exists_identifierOf_eq`: the identifier of an identifier.
* `identifier_initial`: which identifiers begin with a small letter, and which are kept when they
  are made into identifiers again.
* `beginsSmall_hyphened`: one of those that are not.
-/
import ContractScaffold.Proofs.Identifier

namespace ContractScaffold

open Text

/-! ### One more character -/

/-- The characters that a character adds to an identifier after the text in front of it: none if it
is blank, those of its capital form at the beginning of a word, and else itself. -/
def addedAfter (front : Text) (c : Char) : Text :=
  if isBlank c then []
  else (if front.getLast?.all isBlank then capital c else [c]).filter isWordChar

/-- **One more character** adds to the characters of an identifier at their end. -/
lemma wordCapitals_concat (s : Text) (c : Char) :
    wordCapitals (s ++ [c]) = wordCapitals s ++ addedAfter s c := by
  by_cases hblank : isBlank c = true
  · have hwords : words (s ++ [c]) = words s := by
      rw [words_append_blank hblank]
      exact List.append_nil _
    rw [wordCapitals, hwords, addedAfter, if_pos hblank, List.append_nil, wordCapitals]
  · have hc : isBlank c = false := by simpa using hblank
    rw [addedAfter, if_neg hblank]
    by_cases hstart : s.getLast?.all isBlank = true
    · have hword : IsWord [c] := ⟨by simp, by simpa using hc⟩
      have hfront : ∀ d ∈ s.getLast?, isBlank d = true := (Option.all_eq_true _ _).mp hstart
      rw [if_pos hstart, wordCapitals, words_append_word hfront hword, List.flatMap_append,
        List.filter_append, List.flatMap_singleton, wordCapitals]
      simp [capitalized]
    · obtain ⟨d, hd, hnotblank⟩ : ∃ d ∈ s.getLast?, isBlank d = false := by
        simpa [Option.all_eq_true] using hstart
      obtain ⟨front, w, rfl, hfront, hw⟩ := exists_append_word hd hnotblank
      have hword : IsWord (w ++ [c]) :=
        ⟨by simp, List.forall_mem_append.mpr ⟨hw.not_blank, by simpa using hc⟩⟩
      have hcapitalized : capitalized (w ++ [c]) = capitalized w ++ [c] := by
        obtain ⟨e, w, rfl⟩ := List.exists_cons_of_ne_nil hw.ne_nil
        simp [capitalized]
      rw [if_neg hstart, wordCapitals, List.append_assoc, words_append_word hfront hword,
        wordCapitals, words_append_word hfront hw, List.flatMap_append, List.flatMap_append,
        List.flatMap_singleton, List.flatMap_singleton, hcapitalized, ← List.append_assoc,
        List.filter_append]

/-! ### The first letter -/

/-- A text that begins with a small letter. -/
def BeginsSmall (t : Text) : Prop :=
  ∃ c ∈ t.head?, c.isLower = true

@[simp] lemma not_beginsSmall_nil : ¬ BeginsSmall [] := by simp [BeginsSmall]

@[simp] lemma beginsSmall_cons_iff {c : Char} {t : Text} :
    BeginsSmall (c :: t) ↔ c.isLower = true := by
  simp [BeginsSmall]

/-- What comes behind a text does not count. -/
lemma beginsSmall_append_iff {s : Text} (hs : s ≠ []) (t : Text) :
    BeginsSmall (s ++ t) ↔ BeginsSmall s := by
  rw [BeginsSmall, List.head?_append_of_ne_nil _ hs, BeginsSmall]

/-- A name whose first identifier character is a small letter inside of a word: nothing of what is
in front of it is kept, and the character before it is one of its word. -/
def BeginsInWord (raw : Text) : Prop :=
  ∃ front c rest, raw = front ++ c :: rest ∧ c.isLower = true ∧
    (∀ w ∈ words front, ∀ d ∈ capitalized w, isWordChar d = false) ∧
    ∃ d ∈ front.getLast?, isBlank d = false

lemma wordCapitals_eq_nil_iff {t : Text} :
    wordCapitals t = [] ↔ ∀ w ∈ words t, ∀ d ∈ capitalized w, isWordChar d = false := by
  rw [wordCapitals, List.filter_eq_nil_iff, List.forall_mem_flatMap]
  simp

lemma isWordChar_of_isLower {c : Char} (hc : c.isLower = true) : isWordChar c = true := by
  simp [isWordChar, Char.isAlphanum, Char.isAlpha, hc]

/-- No identifier character of a capital form is a small letter. -/
lemma isLower_of_mem_capital {c d : Char} (hd : d ∈ capital c) (hword : isWordChar d = true) :
    d.isLower = false := by
  rw [capital] at hd
  split_ifs at hd with hascii
  · obtain rfl : d = c.toUpper := by simpa using hd
    exact Char.isLower_toUpper_eq_false c
  · cases hform : capitalForms.lookup c with
    | none =>
        obtain rfl : d = c := by simpa [hform] using hd
        exact absurd ((toNat_of_isWordChar hword).2.trans_lt (by decide)) hascii
    | some form =>
        have hforms : capitalForms.all (fun entry => entry.2.all fun d => !d.isLower) = true := by
          decide
        obtain ⟨before, after, hsplit, -⟩ := List.lookup_eq_some_iff.mp hform
        have hentry := List.all_eq_true.mp hforms (c, form) (by simp [hsplit])
        rw [hform, Option.getD_some] at hd
        simpa using List.all_eq_true.mp hentry d hd

/-- Where nothing is in front of it, what a character adds begins with a small letter only inside
of a word. -/
lemma beginsSmall_addedAfter_iff {front : Text} {c : Char} :
    BeginsSmall (addedAfter front c) ↔
      c.isLower = true ∧ ∃ d ∈ front.getLast?, isBlank d = false := by
  rw [addedAfter]
  split_ifs with hblank hstart
  · have hlower : ¬ c.isLower = true := fun hlower => by
      simp [isBlank_of_isWordChar (isWordChar_of_isLower hlower)] at hblank
    simp [hlower]
  · have hcapital : ¬ BeginsSmall ((capital c).filter isWordChar) := by
      rintro ⟨d, hd, hlower⟩
      obtain ⟨hcapital, hword⟩ := List.mem_filter.mp (List.mem_of_mem_head? hd)
      simp [isLower_of_mem_capital hcapital hword] at hlower
    have hend : ¬ ∃ d ∈ front.getLast?, isBlank d = false := by
      rintro ⟨d, hd, hnot⟩
      simp [(Option.all_eq_true _ _).mp hstart d hd] at hnot
    rw [iff_false_left hcapital, not_and]
    exact fun _ => hend
  · have hend : ∃ d ∈ front.getLast?, isBlank d = false := by
      simpa [Option.all_eq_true] using hstart
    rw [and_iff_left hend]
    by_cases hword : isWordChar c = true
    · simp [hword]
    · simp [hword, mt isWordChar_of_isLower hword]

/-- **The characters of an identifier begin with a small letter** exactly where the first of them
is one inside of a word. -/
lemma beginsSmall_wordCapitals_iff (raw : Text) :
    BeginsSmall (wordCapitals raw) ↔ BeginsInWord raw := by
  constructor
  · intro h
    induction raw using List.reverseRecOn with
    | nil => simp [wordCapitals, words] at h
    | append_singleton s c ih =>
        rw [wordCapitals_concat] at h
        by_cases hnil : wordCapitals s = []
        · rw [hnil, List.nil_append, beginsSmall_addedAfter_iff] at h
          exact ⟨s, c, [], rfl, h.1, wordCapitals_eq_nil_iff.mp hnil, h.2⟩
        · obtain ⟨front, d, rest, rfl, hrest⟩ := ih ((beginsSmall_append_iff hnil _).mp h)
          exact ⟨front, d, rest ++ [c], by simp, hrest⟩
  · rintro ⟨front, c, rest, rfl, hlower, hfront, hend⟩
    induction rest using List.reverseRecOn with
    | nil =>
        rw [wordCapitals_concat, wordCapitals_eq_nil_iff.mpr hfront, List.nil_append,
          beginsSmall_addedAfter_iff]
        exact ⟨hlower, hend⟩
    | append_singleton rest e ih =>
        have hne : wordCapitals (front ++ c :: rest) ≠ [] := by
          intro hnil
          simp [hnil] at ih
        rw [← List.cons_append, ← List.append_assoc, wordCapitals_concat,
          beginsSmall_append_iff hne]
        exact ih

/-- An identifier begins with a small letter where the characters that it is made of do. -/
lemma beginsSmall_identifierOf_iff (raw : Text) :
    BeginsSmall (identifierOf raw) ↔ BeginsSmall (wordCapitals raw) := by
  have hgenerated : generatedContract = 'G' :: ("eneratedContract" : Text) := rfl
  rw [identifierOf]
  generalize wordCapitals raw = capitals
  cases capitals with
  | nil =>
      simp only [hgenerated, beginsSmall_cons_iff, not_beginsSmall_nil, iff_false]
      decide
  | cons c rest =>
      simp only
      split_ifs with hdigit
      · have hlower : ¬ c.isLower = true := fun hlower => by
          have halpha : c.isAlpha = true := by simp [Char.isAlpha, hlower]
          simp [isDigit_of_isAlpha halpha] at hdigit
        simp only [beginsSmall_cons_iff, hlower]
        decide
      · rfl

/-! ### Identifiers of identifiers -/

/-- **The identifier of an identifier** has its first character in capital form. -/
lemma IsIdentifier.exists_identifierOf_eq {name : Text} (h : IsIdentifier name) :
    ∃ c rest, name = c :: rest ∧ identifierOf name = c.toUpper :: rest := by
  have hname := h.isName
  obtain ⟨c, rest, rfl, hc, -⟩ := h
  have hdigit : c.isDigit = false := by
    rcases hc with hc | rfl
    · exact isDigit_of_isAlpha hc
    · rfl
  refine ⟨c, rest, rfl, ?_⟩
  rw [hname.identifierOf_cons, hdigit]
  rfl

/-- An identifier is its own identifier exactly if it does not begin with a small letter. -/
lemma IsIdentifier.identifierOf_eq_self_iff {name : Text} (h : IsIdentifier name) :
    identifierOf name = name ↔ ¬ BeginsSmall name := by
  obtain ⟨c, rest, rfl, hid⟩ := h.exists_identifierOf_eq
  rw [hid, beginsSmall_cons_iff]
  constructor
  · intro heq hlower
    rw [← (List.cons.inj heq).1] at hlower
    simp at hlower
  · intro hlower
    rw [Char.toUpper_eq_of_not_isLower hlower]

/-- **The first letter of an identifier.** An identifier begins with a small letter exactly where
the first identifier character of the name is one inside of a word, behind characters that are left
out; and exactly these identifiers are not kept when they are made into identifiers again. Then
the first letter becomes a capital, and nothing changes after that. The name in a record is none of
these names, so that the files of a document always have names that begin with a capital or an
underscore. -/
theorem identifier_initial (raw : Text) :
    (BeginsSmall (identifierOf raw) ↔ BeginsInWord raw) ∧
    (identifierOf (identifierOf raw) = identifierOf raw ↔ ¬ BeginsInWord raw) ∧
    (∃ c rest, identifierOf raw = c :: rest ∧
      identifierOf (identifierOf raw) = c.toUpper :: rest) ∧
    identifierOf (identifierOf (identifierOf raw)) = identifierOf (identifierOf raw) ∧
    ¬ BeginsInWord (recordName raw) := by
  have hid := isIdentifier_identifierOf raw
  have hsmall := beginsSmall_identifierOf_iff raw
  rw [beginsSmall_wordCapitals_iff] at hsmall
  refine ⟨hsmall, ?_, hid.exists_identifierOf_eq, hid.isName.identifierOf_identifierOf, ?_⟩
  · rw [hid.identifierOf_eq_self_iff, hsmall]
  · rw [← beginsSmall_wordCapitals_iff, ← beginsSmall_identifierOf_iff,
      ← (isIdentifier_identifierOf _).identifierOf_eq_self_iff]
    exact (isName_recordName raw).identifierOf_identifierOf

/-- **A hyphen that is left out keeps the letter behind it small**, until the identifier is made
into one again. -/
theorem beginsSmall_hyphened :
    BeginsSmall (identifierOf "-abc") ∧ identifierOf "-abc" = "abc" ∧
      identifierOf (identifierOf "-abc") = "Abc" := by
  refine ⟨⟨'a', ?_⟩, ?_⟩
  · decide
  · decide

end ContractScaffold
