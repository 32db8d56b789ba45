/-
Where a text occurs in another.

* `occursIn_iff`: the search finds exactly the runs of consecutive characters.
* `infix_append_cons_iff`, `infix_append_flatMap_iff`: a text without a separator
  occurs in texts with separators between them where it occurs in one of them.
* `without_append_cons`, `without_eq_self`, `length_without_lt`: a text with another one left
  out, and `words_without`: the words of what is left.
* `occurrences`: how often a text occurs in another; `occurrences_append_cons` adds up
  what occurs on the two sides of a separator, and `occurrences_trim` says that blank
  space around a text does not count.
-/
import ContractScaffold.Proofs.Text.Trim

namespace ContractScaffold

namespace Text

/-- **The search for a text** finds it exactly where it is a run of the other. -/
lemma occursIn_iff {part t : Text} : occursIn part t = true ↔ part <:+: t := by
  induction t with
  | nil => rw [occursIn, List.isEmpty_iff, List.infix_nil]
  | cons c t ih =>
      rw [occursIn, Bool.or_eq_true, List.isPrefixOf_iff_prefix, ih, List.infix_cons_iff]

/-- A text without the separator that begins in front of it ends in front of it. -/
lemma prefix_append_cons_iff {part : Text} {separator : Char} (h : separator ∉ part) (s t : Text) :
    part <+: s ++ separator :: t ↔ part <+: s := by
  refine ⟨fun hpart => ?_, fun hpart => hpart.trans (List.prefix_append s _)⟩
  rcases List.prefix_or_prefix_of_prefix hpart (List.prefix_append s _) with hs | ⟨u, rfl⟩
  · exact hs
  · rw [List.prefix_append_right_inj] at hpart
    cases u with
    | nil => simp
    | cons c u =>
        obtain rfl : c = separator := (List.cons_prefix_cons.mp hpart).1
        simp at h

/-- **A separator is not run over**: a text without it occurs on one of its sides. -/
lemma infix_append_cons_iff {part : Text} {separator : Char} (h : separator ∉ part) (s t : Text) :
    part <:+: s ++ separator :: t ↔ part <:+: s ∨ part <:+: t := by
  induction s with
  | nil =>
      rw [List.nil_append, List.infix_cons_iff, List.infix_nil, ← List.prefix_nil]
      exact or_congr_left (prefix_append_cons_iff h [] t)
  | cons c s ih =>
      have hfront : part <+: c :: (s ++ separator :: t) ↔ part <+: c :: s :=
        prefix_append_cons_iff h (c :: s) t
      rw [List.cons_append, List.infix_cons_iff, hfront, ih, List.infix_cons_iff, or_assoc]

/-- A text without the separator occurs in one of the texts that separators divide. -/
lemma infix_append_flatMap_iff {α : Type*} {part : Text} {separator : Char} (h : separator ∉ part)
    (text : α → Text) (s : Text) (xs : List α) :
    part <:+: s ++ xs.flatMap (fun x => separator :: text x) ↔
      part <:+: s ∨ ∃ x ∈ xs, part <:+: text x := by
  induction xs generalizing s with
  | nil => simp
  | cons x xs ih =>
      rw [List.flatMap_cons, ← List.append_assoc, ih, infix_append_cons_iff h, or_assoc,
        List.exists_mem_cons_iff]

/-! ### Leaving out -/

section

variable {part t : Text}

/-- What is left of a text comes from it. -/
lemma mem_of_mem_without {c : Char} (hmem : c ∈ without part t) : c ∈ t := by
  have hfrom : ∀ (t : Text) (skip : ℕ), c ∈ withoutFrom part skip t → c ∈ t := by
    intro t
    induction t with
    | nil =>
        intro skip h
        cases skip <;> simp [withoutFrom] at h
    | cons d t ih =>
        intro skip h
        cases skip with
        | succ skip => exact List.mem_cons_of_mem d (ih skip h)
        | zero =>
            rw [withoutFrom] at h
            split_ifs at h
            · exact List.mem_cons_of_mem d (ih _ h)
            · exact (List.mem_cons.mp h).elim (fun h => h ▸ List.mem_cons_self)
                fun h => List.mem_cons_of_mem d (ih 0 h)
  exact hfrom t 0 hmem

/-- A separator ends what is left out in front of it, and nothing that is left out runs over
it. -/
lemma without_append_cons {separator : Char} (hne : part ≠ []) (h : separator ∉ part) (s t : Text) :
    without part (s ++ separator :: t) = without part s ++ separator :: without part t := by
  have hfrom : ∀ (s : Text) (skip : ℕ), skip ≤ s.length →
      withoutFrom part skip (s ++ separator :: t) =
        withoutFrom part skip s ++ separator :: withoutFrom part 0 t := by
    intro s
    induction s with
    | nil =>
        intro skip hskip
        obtain rfl : skip = 0 := Nat.le_zero.mp hskip
        have hnot : ¬ part.isPrefixOf (separator :: t) = true := by
          rw [List.isPrefixOf_iff_prefix]
          exact fun hpart => hne (List.prefix_nil.mp ((prefix_append_cons_iff h [] t).mp hpart))
        rw [List.nil_append, withoutFrom, withoutFrom, if_neg hnot, List.nil_append]
    | cons c s ih =>
        intro skip hskip
        cases skip with
        | succ skip => exact ih skip (Nat.le_of_succ_le_succ hskip)
        | zero =>
            have hfront : part.isPrefixOf (c :: (s ++ separator :: t)) =
                part.isPrefixOf (c :: s) := by
              rw [Bool.eq_iff_iff, List.isPrefixOf_iff_prefix, List.isPrefixOf_iff_prefix]
              exact prefix_append_cons_iff h (c :: s) t
            rw [List.cons_append, withoutFrom, withoutFrom, hfront]
            split_ifs with hprefix
            · have hlength := (List.isPrefixOf_iff_prefix.mp hprefix).length_le
              exact ih _ (by simpa using Nat.sub_le_of_le_add hlength)
            · rw [ih 0 (Nat.zero_le _), List.cons_append]
  exact hfrom s 0 (Nat.zero_le _)

/-- Where a text does not occur, nothing is left out. -/
lemma without_eq_self (h : ¬ part <:+: t) : without part t = t := by
  induction t with
  | nil => rfl
  | cons c t ih =>
      rw [List.infix_cons_iff, not_or] at h
      rw [without, withoutFrom, if_neg (by simpa using h.1), ← without, ih h.2]

lemma length_withoutFrom_le (part t : Text) (skip : ℕ) :
    (withoutFrom part skip t).length ≤ t.length := by
  induction t generalizing skip with
  | nil => cases skip <;> simp [withoutFrom]
  | cons c t ih =>
      cases skip with
      | succ skip => exact (ih skip).trans (Nat.le_succ _)
      | zero =>
          rw [withoutFrom]
          split_ifs
          · exact (ih _).trans (Nat.le_succ _)
          · exact Nat.succ_le_succ (ih 0)

lemma withoutFrom_of_length_le {skip : ℕ} (h : t.length ≤ skip) : withoutFrom part skip t = [] := by
  induction t generalizing skip with
  | nil => cases skip <;> rfl
  | cons c t ih =>
      cases skip with
      | zero => exact absurd h (by simp)
      | succ skip => exact ih (Nat.le_of_succ_le_succ h)

lemma without_self (part : Text) : without part part = [] := by
  cases part with
  | nil => rfl
  | cons c rest =>
      rw [without, withoutFrom, if_pos (List.isPrefixOf_iff_prefix.mpr List.prefix_rfl)]
      exact withoutFrom_of_length_le (by simp)

/-- Where it occurs, the text gets shorter. -/
lemma length_without_lt (hne : part ≠ []) (h : part <:+: t) :
    (without part t).length < t.length := by
  induction t with
  | nil => exact absurd (List.infix_nil.mp h) hne
  | cons c t ih =>
      rw [without, withoutFrom]
      split_ifs with hprefix
      · exact Nat.lt_succ_of_le (length_withoutFrom_le part t _)
      · have hrest := (List.infix_cons_iff.mp h).resolve_left (by simpa using hprefix)
        exact Nat.succ_lt_succ (ih hrest)

/-- **A word is left out inside of words**: the words of what is left are what is left of the
words. -/
lemma words_without (hpart : IsWord part) (t : Text) :
    words (without part t) = ((words t).map (without part)).filter fun w => !w.isEmpty := by
  have hword : ∀ s : Text, (∀ c ∈ s, isBlank c = false) →
      words (without part s) = ((words s).map (without part)).filter fun w => !w.isEmpty := by
    intro s hs
    rw [words_of_not_blank hs, words_of_not_blank fun c hc => hs c (mem_of_mem_without hc)]
    by_cases hnil : s = []
    · rw [hnil]
      rfl
    · simp [hnil]
  -- The induction takes the text behind a part of a word that is not finished yet.
  have hrun : ∀ t s : Text, (∀ c ∈ s, isBlank c = false) →
      words (without part (s ++ t)) =
        ((words (s ++ t)).map (without part)).filter fun w => !w.isEmpty := by
    intro t
    induction t with
    | nil =>
        intro s hs
        rw [List.append_nil]
        exact hword s hs
    | cons c t ih =>
        intro s hs
        by_cases hc : isBlank c = true
        · have hrest := ih [] (by simp)
          have hnot : c ∉ part := fun hmem => by
            rw [hpart.not_blank c hmem] at hc
            exact Bool.false_ne_true hc
          rw [without_append_cons hpart.ne_nil hnot, words_append_blank hc, words_append_blank hc,
            hword s hs, List.map_append, List.filter_append]
          exact congrArg _ hrest
        · rw [List.append_cons]
          refine ih (s ++ [c]) fun d hd => ?_
          rcases List.mem_append.mp hd with hd | hd
          · exact hs d hd
          · rw [List.mem_singleton.mp hd]
            simpa using hc
  exact hrun t [] (by simp)

end

/-! ### Counting -/

/-- How often a text occurs in another, overlaps included. -/
def occurrences (part t : Text) : Nat :=
  t.tails.countP part.isPrefixOf

/-- A text that does not occur in another occurs there no times. -/
lemma occurrences_eq_zero_iff {part t : Text} : occurrences part t = 0 ↔ ¬ part <:+: t := by
  rw [occurrences, List.countP_eq_zero, List.infix_iff_prefix_suffix]
  simp only [List.mem_tails, List.isPrefixOf_iff_prefix, not_exists, not_and]
  exact forall_congr' fun u => imp_not_comm

lemma occurrences_cons (part : Text) (c : Char) (t : Text) :
    occurrences part (c :: t) = occurrences part t + if part.isPrefixOf (c :: t) then 1 else 0 := by
  rw [occurrences, List.tails_cons, List.countP_cons, occurrences]

/-- **What occurs on the two sides of a separator** adds up. -/
lemma occurrences_append_cons {part : Text} {separator : Char} (h : separator ∉ part)
    (s t : Text) :
    occurrences part (s ++ separator :: t) = occurrences part s + occurrences part t := by
  have hfront : ∀ s : Text, part.isPrefixOf (s ++ separator :: t) = part.isPrefixOf s := by
    intro s
    rw [Bool.eq_iff_iff, List.isPrefixOf_iff_prefix, List.isPrefixOf_iff_prefix,
      prefix_append_cons_iff h]
  induction s with
  | nil =>
      have hnil : occurrences part [] = if part.isPrefixOf [] then 1 else 0 := by
        simp [occurrences, List.countP_singleton]
      rw [List.nil_append, occurrences_cons, hnil, ← hfront [], List.nil_append, Nat.add_comm]
  | cons c s ih =>
      have hfront := hfront (c :: s)
      rw [List.cons_append] at hfront ⊢
      rw [occurrences_cons, ih, hfront, occurrences_cons]
      omega

/-- A text without blank characters occurs as often without the blank space around the
other. -/
lemma occurrences_trim {part : Text} (hne : part ≠ []) (hpart : ∀ c ∈ part, isBlank c = false)
    (t : Text) : occurrences part (trim t) = occurrences part t := by
  have hzero : occurrences part [] = 0 :=
    occurrences_eq_zero_iff.mpr fun h => hne (List.infix_nil.mp h)
  have hblank : ∀ {c : Char}, isBlank c = true → c ∉ part := fun hc hmem => by
    rw [hpart _ hmem] at hc
    cases hc
  refine apply_trim (occurrences part) (fun c t hc => ?_) (fun c t hc => ?_) t
  · have hsides := occurrences_append_cons (hblank hc) [] t
    rwa [List.nil_append, hzero, Nat.zero_add] at hsides
  · rw [occurrences_append_cons (hblank hc) t [], hzero, Nat.add_zero]

end Text

end ContractScaffold
