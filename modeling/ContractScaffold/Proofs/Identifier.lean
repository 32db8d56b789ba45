/-
The two names that are made of a free-form name: the one in the record, and the identifier.
Both are what they are said to be for every name, and neither changes when it is made into a
name again.

* `IsName`, `IsIdentifier`: texts of identifier characters, and those that begin with no digit.
* `isName_recordName`, `isIdentifier_identifierOf`: what the two names are.
* `IsName.recordName_eq`, `IsName.identifierOf_cons`: a name keeps its characters, the first one
  in capital form.
* `IsName.identifierOf_identifierOf`: the identifier of a name is kept as it is.
-/
import Mathlib
import ContractScaffold.Identifier
import ContractScaffold.Proofs.Text.Trim

namespace ContractScaffold

open Text

/-! ### Names and identifiers -/

/-- A name: letters, digits and underscores, at least one of them. -/
structure IsName (name : Text) : Prop where
  ne_nil : name ≠ []
  isWordChar : ∀ c ∈ name, isWordChar c = true

/-- An identifier: a letter or an underscore, and after it letters, digits and underscores. -/
def IsIdentifier (name : Text) : Prop :=
  ∃ c rest, name = c :: rest ∧ (c.isAlpha = true ∨ c = '_') ∧ ∀ d ∈ rest, isWordChar d = true

lemma IsIdentifier.isName {name : Text} (h : IsIdentifier name) : IsName name := by
  obtain ⟨c, rest, rfl, hc, hrest⟩ := h
  have hfirst : isWordChar c = true := by
    rcases hc with hc | rfl
    · simp [Text.isWordChar, Char.isAlphanum, hc]
    · rfl
  exact ⟨by simp, List.forall_mem_cons.mpr ⟨hfirst, hrest⟩⟩

/-- A name that begins with no digit is an identifier. -/
lemma IsName.isIdentifier {c : Char} {rest : Text} (h : IsName (c :: rest))
    (hc : c.isDigit = false) : IsIdentifier (c :: rest) := by
  obtain ⟨hfirst, hrest⟩ := List.forall_mem_cons.mp h.isWordChar
  refine ⟨c, rest, rfl, ?_, hrest⟩
  simpa [Text.isWordChar, Char.isAlphanum, hc] using hfirst

/-- The name in the record is a name. -/
lemma isName_recordName (raw : Text) : IsName (recordName raw) := by
  rw [recordName]
  split_ifs with hnil
  · exact ⟨by decide, List.all_eq_true.mp (by decide)⟩
  · exact ⟨by simpa using hnil, fun c hc => (List.mem_filter.mp hc).2⟩

/-- **The identifier is one**, whatever it is made of. -/
lemma isIdentifier_identifierOf (raw : Text) : IsIdentifier (identifierOf raw) := by
  have hword : ∀ c ∈ wordCapitals raw, isWordChar c = true := fun c hc =>
    (List.mem_filter.mp hc).2
  rw [identifierOf]
  generalize wordCapitals raw = capitals at hword ⊢
  rcases capitals with _ | ⟨c, rest⟩
  · exact ⟨'G', "eneratedContract", rfl, .inl rfl, List.all_eq_true.mp (by decide)⟩
  · simp only
    split_ifs with hdigit
    · exact ⟨'_', c :: rest, rfl, .inr rfl, hword⟩
    · exact IsName.isIdentifier ⟨by simp, hword⟩ (by simpa using hdigit)

lemma isWordChar_of_mem_identifierOf {raw : Text} {c : Char} (hc : c ∈ identifierOf raw) :
    isWordChar c = true :=
  (isIdentifier_identifierOf raw).isName.isWordChar c hc

/-! ### Names of names -/

lemma isDigit_of_isAlpha {c : Char} (hc : c.isAlpha = true) : c.isDigit = false := by
  simp only [Char.isAlpha, Char.isUpper, Char.isLower, Char.isDigit, Bool.or_eq_true,
    Bool.and_eq_true, Bool.and_eq_false_imp, decide_eq_true_eq, decide_eq_false_iff_not,
    ge_iff_le, UInt32.le_iff_toNat_le, Char.reduceVal, UInt32.reduceToNat] at hc ⊢
  omega

/-- A digit has no other capital form. -/
lemma toUpper_of_isDigit {c : Char} (hc : c.isDigit = true) : c.toUpper = c := by
  refine Char.toUpper_eq_of_not_isLower fun hlower => ?_
  have halpha : c.isAlpha = true := by simp [Char.isAlpha, hlower]
  simp [isDigit_of_isAlpha halpha] at hc

/-- The capital form of an identifier character is one, and a digit only if it is one. -/
lemma capital_of_isWordChar {c : Char} (hc : isWordChar c = true) :
    capital c = [c.toUpper] ∧ isWordChar c.toUpper = true ∧ c.toUpper.isDigit = c.isDigit := by
  have hascii : c.toNat < 0x80 := (toNat_of_isWordChar hc).2.trans_lt (by decide)
  refine ⟨if_pos hascii, ?_⟩
  by_cases halpha : c.isAlpha = true
  · have hupper : c.toUpper.isAlpha = true := by simpa using halpha
    rw [isDigit_of_isAlpha halpha, isDigit_of_isAlpha hupper]
    simp [isWordChar, Char.isAlphanum, halpha]
  · have hlower : ¬ c.isLower = true := fun hlower => halpha (by simp [Char.isAlpha, hlower])
    rw [Char.toUpper_eq_of_not_isLower hlower]
    exact ⟨hc, rfl⟩

namespace IsName

variable {name : Text}

lemma isWord (h : IsName name) : IsWord name :=
  ⟨h.ne_nil, fun c hc => isBlank_of_isWordChar (h.isWordChar c hc)⟩

/-- A name is its own name in the record. -/
lemma recordName_eq (h : IsName name) : recordName name = name := by
  have hfilter : name.filter Text.isWordChar = name := List.filter_eq_self.mpr h.isWordChar
  have hne : name.isEmpty = false := List.isEmpty_eq_false_iff.mpr h.ne_nil
  rw [recordName, words_of_isWord h.isWord, joinWith, List.intercalate_singleton, hfilter]
  simp [hne]

/-- **The identifier of a name** has the first character in capital form, or an underscore before
a digit. -/
lemma identifierOf_cons {c : Char} {rest : Text} (h : IsName (c :: rest)) :
    identifierOf (c :: rest) = if c.isDigit then '_' :: c :: rest else c.toUpper :: rest := by
  obtain ⟨hc, hrest⟩ := List.forall_mem_cons.mp h.isWordChar
  obtain ⟨hcapital, hupper, hdigit⟩ := capital_of_isWordChar hc
  have hcapitals : wordCapitals (c :: rest) = c.toUpper :: rest := by
    rw [wordCapitals, words_of_isWord h.isWord, List.flatMap_singleton, capitalized, hcapital,
      List.singleton_append, List.filter_cons_of_pos hupper, List.filter_eq_self.mpr hrest]
  rw [identifierOf, hcapitals]
  simp only [hdigit]
  split_ifs with hfirst
  · rw [toUpper_of_isDigit hfirst]
  · rfl

/-- An identifier made of a name is its own identifier. -/
lemma identifierOf_identifierOf (h : IsName name) :
    identifierOf (identifierOf name) = identifierOf name := by
  obtain ⟨c, rest, rfl⟩ := List.exists_cons_of_ne_nil h.ne_nil
  have hid := (isIdentifier_identifierOf (c :: rest)).isName
  rw [h.identifierOf_cons] at hid ⊢
  split_ifs at hid ⊢ with hdigit
  · rw [hid.identifierOf_cons]
    rfl
  · have hupper := (capital_of_isWordChar (h.isWordChar c List.mem_cons_self)).2.2
    rw [hid.identifierOf_cons, hupper, if_neg hdigit, Char.toUpper_toUpper_eq_toUpper]

end IsName

end ContractScaffold
