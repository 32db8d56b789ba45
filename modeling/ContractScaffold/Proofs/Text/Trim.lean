/-
Blank space around and between the characters of a text: what trimming keeps,
and which words a text has.

* `Trimmed`, `Tidy`: a text without blank space at its ends, and such a text on
  one line.
* `takeWhile_until`, `dropWhile_until`, `suffix_of_dropWhile_eq`: a run of a class up to a
  character outside it, and what follows.
* `dropEndWhile_append_of_all`, `dropEndWhile_append_of_exists`: the end of an append.
* `isInfix_strip`, `strip_of_ends`, `strip_surrounded`: stripping keeps a run of
  the text, keeps all of a text whose ends are outside the class, and does not
  see what the class adds around a text; `trimmed_trim` and `trim_of_trimmed` are
  the cases of blank space.
* `apply_trim`: what sees no blank character at either end does not see trimming.
* `IsWord`, `words_joinWith`, `joinWith_words_tidy`: words joined by single
  spaces are the words of the text that they make, and that text is tidy.
* `words_trim`: trimming takes no word away.
* `words_append_word`, `exists_append_word`: the last word of a text.
-/
import Mathlib
import ContractScaffold.Text.Blank

namespace ContractScaffold

namespace Text

variable {p : Char → Bool} {t : Text}

/-! ### Runs up to a character -/

lemma takeWhile_until {d : Char} (ht : ∀ c ∈ t, p c = true) (hd : p d = false) (u : Text) :
    (t ++ d :: u).takeWhile p = t := by
  simp [List.takeWhile_append_of_pos ht, hd]

lemma dropWhile_until {d : Char} (ht : ∀ c ∈ t, p c = true) (hd : p d = false) (u : Text) :
    (t ++ d :: u).dropWhile p = d :: u := by
  simp [List.dropWhile_append_of_pos ht, hd]

/-- What follows the first character outside a class is a rear part of the text. -/
lemma suffix_of_dropWhile_eq {c : Char} {u : Text} (h : t.dropWhile p = c :: u) : u <:+ t := by
  have hsuffix := t.dropWhile_suffix p
  rw [h] at hsuffix
  exact (List.suffix_cons c u).trans hsuffix

/-! ### Stripping a class of characters -/

lemma dropEndWhile_eq_rdropWhile (p : Char → Bool) (t : Text) :
    dropEndWhile p t = t.rdropWhile p := rfl

lemma dropEndWhile_eq_nil_iff : dropEndWhile p t = [] ↔ ∀ c ∈ t, p c = true := by
  rw [dropEndWhile_eq_rdropWhile, List.rdropWhile_eq_nil_iff]

lemma dropEndWhile_append_of_all {b : Text} (hb : ∀ c ∈ b, p c = true) (a : Text) :
    dropEndWhile p (a ++ b) = dropEndWhile p a := by
  have hreverse : ∀ c ∈ b.reverse, p c = true := fun c hc => hb c (List.mem_reverse.mp hc)
  rw [dropEndWhile, List.reverse_append, List.dropWhile_append_of_pos hreverse, dropEndWhile]

/-- A character outside the class keeps what is in front of it. -/
lemma dropEndWhile_append_of_exists {b : Text} (hb : ∃ c ∈ b, p c = false) (a : Text) :
    dropEndWhile p (a ++ b) = a ++ dropEndWhile p b := by
  have hne : b.reverse.dropWhile p ≠ [] := by
    obtain ⟨c, hc, hpc⟩ := hb
    intro hnil
    have hp := List.dropWhile_eq_nil_iff.mp hnil c (List.mem_reverse.mpr hc)
    rw [hpc] at hp
    exact Bool.false_ne_true hp
  rw [dropEndWhile, List.reverse_append, List.dropWhile_append,
    if_neg (by simpa using hne), List.reverse_append, List.reverse_reverse, dropEndWhile]

lemma mem_of_mem_dropEndWhile {c : Char} (h : c ∈ dropEndWhile p t) : c ∈ t :=
  (List.rdropWhile_prefix p t).subset h

/-- What stripping leaves is a run of the text. -/
lemma isInfix_strip (p : Char → Bool) (t : Text) : strip p t <:+: t := by
  have hfront : strip p t <+: t.dropWhile p := List.rdropWhile_prefix p _
  exact hfront.isInfix.trans (t.dropWhile_suffix p).isInfix

lemma mem_of_mem_strip {c : Char} (h : c ∈ strip p t) : c ∈ t :=
  (isInfix_strip p t).subset h

/-- A stripped text does not begin with a character of the class. -/
lemma strip_head {c : Char} (h : c ∈ (strip p t).head?) : p c = false := by
  obtain ⟨rest, hrest⟩ : strip p t <+: t.dropWhile p := List.rdropWhile_prefix p _
  have hne : strip p t ≠ [] := by rintro hnil; simp [hnil] at h
  have hhead : c ∈ (t.dropWhile p).head? := by
    rw [← hrest, List.head?_append_of_ne_nil _ hne]
    exact h
  have hstop := t.head?_dropWhile_not p
  rw [Option.mem_def.mp hhead] at hstop
  simpa using hstop

/-- A stripped text does not end with a character of the class. -/
lemma strip_last {c : Char} (h : c ∈ (strip p t).getLast?) : p c = false := by
  have hne : (t.dropWhile p).rdropWhile p ≠ [] := by
    intro hnil
    rw [strip, dropEndWhile_eq_rdropWhile, hnil] at h
    simp at h
  have hlast := List.rdropWhile_last_not p (t.dropWhile p) hne
  have hc : (strip p t).getLast? = some (((t.dropWhile p).rdropWhile p).getLast hne) :=
    List.getLast?_eq_some_getLast hne
  rw [hc, Option.mem_def, Option.some.injEq] at h
  simpa [h] using hlast

/-- Nothing is left exactly where the whole text is of the class. -/
lemma strip_eq_nil_iff : strip p t = [] ↔ ∀ c ∈ t, p c = true := by
  rw [strip, dropEndWhile_eq_nil_iff]
  refine ⟨fun h c hc => ?_, fun h c hc => h c ((t.dropWhile_suffix p).subset hc)⟩
  rw [← t.takeWhile_append_dropWhile (p := p)] at hc
  rcases List.mem_append.mp hc with hc | hc
  · exact List.mem_takeWhile_imp hc
  · exact h c hc

/-- A text that neither begins nor ends with a character of the class stays. -/
lemma strip_of_ends (hhead : ∀ c ∈ t.head?, p c = false) (hlast : ∀ c ∈ t.getLast?, p c = false) :
    strip p t = t := by
  have hdrop : t.dropWhile p = t := by
    cases t with
    | nil => rfl
    | cons c t => simp [hhead c (by simp)]
  rw [strip, hdrop, dropEndWhile_eq_rdropWhile, List.rdropWhile_eq_self_iff]
  intro hne
  simpa using hlast _ (List.getLast?_eq_some_getLast hne)

/-- A text is what stripping leaves, between two runs of the class. -/
lemma exists_strip_append (p : Char → Bool) (t : Text) :
    ∃ a b : Text, t = a ++ strip p t ++ b ∧ (∀ c ∈ a, p c = true) ∧ ∀ c ∈ b, p c = true := by
  refine ⟨t.takeWhile p, (t.dropWhile p).rtakeWhile p, ?_, fun c hc => List.mem_takeWhile_imp hc,
    fun c hc => List.mem_rtakeWhile_imp hc⟩
  rw [List.append_assoc, strip, dropEndWhile_eq_rdropWhile, List.rdropWhile_append_rtakeWhile,
    List.takeWhile_append_dropWhile]

/-- Characters of the class around a text are not seen by stripping. -/
lemma strip_surrounded {a b : Text} (ha : ∀ c ∈ a, p c = true) (hb : ∀ c ∈ b, p c = true)
    (t : Text) : strip p (a ++ t ++ b) = strip p t := by
  rw [strip, List.append_assoc, List.dropWhile_append_of_pos ha, strip, List.dropWhile_append]
  cases hdrop : t.dropWhile p with
  | nil =>
      have hnil : b.dropWhile p = [] := List.dropWhile_eq_nil_iff.mpr fun c hc => hb c hc
      simp [hnil, dropEndWhile]
  | cons d rest =>
      simpa using dropEndWhile_append_of_all hb (d :: rest)

/-! ### Trimmed and tidy texts -/

/-- A text without blank space at its ends. -/
structure Trimmed (t : Text) : Prop where
  head : ∀ c ∈ t.head?, isBlank c = false
  last : ∀ c ∈ t.getLast?, isBlank c = false

/-- A trimmed text on a single line. -/
structure Tidy (t : Text) : Prop extends Trimmed t where
  line : '\n' ∉ t

instance (t : Text) : Decidable (Trimmed t) :=
  decidable_of_iff (t.head?.all (fun c => !isBlank c) = true
      ∧ t.getLast?.all (fun c => !isBlank c) = true)
    ⟨fun h => ⟨by simpa [Option.all_eq_true] using h.1, by simpa [Option.all_eq_true] using h.2⟩,
      fun h => ⟨by simpa [Option.all_eq_true] using h.head,
        by simpa [Option.all_eq_true] using h.last⟩⟩

instance (t : Text) : Decidable (Tidy t) :=
  decidable_of_iff (Trimmed t ∧ '\n' ∉ t) ⟨fun h => ⟨h.1, h.2⟩, fun h => ⟨h.toTrimmed, h.line⟩⟩

lemma isBlank_newline : isBlank '\n' = true := by decide

lemma isBlank_space : isBlank ' ' = true := by decide

lemma isBlank_return : isBlank '\r' = true := by decide

lemma isInfix_trim (t : Text) : trim t <:+: t := isInfix_strip isBlank t

lemma mem_of_mem_trim {c : Char} (h : c ∈ trim t) : c ∈ t := mem_of_mem_strip h

lemma trimmed_trim (t : Text) : Trimmed (trim t) :=
  ⟨fun _ hc => strip_head hc, fun _ hc => strip_last hc⟩

lemma trim_of_trimmed (h : Trimmed t) : trim t = t := strip_of_ends h.head h.last

lemma trim_eq_nil_iff : trim t = [] ↔ ∀ c ∈ t, isBlank c = true := strip_eq_nil_iff

lemma trim_eq_nil_iff_isAllBlank : trim t = [] ↔ isAllBlank t = true :=
  trim_eq_nil_iff.trans List.all_eq_true.symm

@[simp] lemma trim_nil : trim [] = [] := rfl

lemma trimmed_nil : Trimmed [] := ⟨by simp, by simp⟩

lemma tidy_nil : Tidy [] := ⟨trimmed_nil, by simp⟩

/-- Trimming a text on one line makes it tidy. -/
lemma tidy_trim (h : '\n' ∉ t) : Tidy (trim t) :=
  ⟨trimmed_trim t, fun hc => h (mem_of_mem_trim hc)⟩

lemma trim_append_of_blank {b : Text} (hb : ∀ c ∈ b, isBlank c = true) (t : Text) :
    trim (t ++ b) = trim t :=
  strip_surrounded (a := []) (by simp) hb t

lemma trim_dropEndWhile (t : Text) : trim (dropEndWhile isBlank t) = trim t := by
  have hblank : ∀ c ∈ t.rtakeWhile isBlank, isBlank c = true :=
    fun c hc => List.mem_rtakeWhile_imp hc
  calc trim (dropEndWhile isBlank t)
      = trim (dropEndWhile isBlank t ++ t.rtakeWhile isBlank) :=
        (trim_append_of_blank hblank _).symm
    _ = trim t := by rw [dropEndWhile_eq_rdropWhile, List.rdropWhile_append_rtakeWhile]

lemma trim_space_cons (t : Text) : trim (' ' :: t) = trim t := by
  simpa [trim] using strip_surrounded (a := [' ']) (b := []) (p := isBlank)
    (by simp [isBlank_space]) (by simp) t

/-- A function of texts that sees no blank character at either end does not see
trimming. -/
lemma apply_trim {α : Type*} (f : Text → α)
    (hcons : ∀ c t, isBlank c = true → f (c :: t) = f t)
    (happend : ∀ c t, isBlank c = true → f (t ++ [c]) = f t) (t : Text) : f (trim t) = f t := by
  obtain ⟨a, b, ht, ha, hb⟩ := exists_strip_append isBlank t
  have hfront : ∀ (a u : Text), (∀ c ∈ a, isBlank c = true) → f (a ++ u) = f u := by
    intro a u ha
    induction a with
    | nil => rfl
    | cons c a ih =>
        rw [List.cons_append, hcons c _ (ha c (by simp)),
          ih fun d hd => ha d (List.mem_cons_of_mem _ hd)]
  have hrear : ∀ (b u : Text), (∀ c ∈ b, isBlank c = true) → f (u ++ b) = f u := by
    intro b u hb
    induction b generalizing u with
    | nil => rw [List.append_nil]
    | cons c b ih =>
        rw [List.append_cons, ih _ fun d hd => hb d (List.mem_cons_of_mem _ hd),
          happend c _ (hb c (by simp))]
  calc f (trim t) = f (a ++ trim t) := (hfront a _ ha).symm
    _ = f (a ++ trim t ++ b) := (hrear b _ hb).symm
    _ = f t := congrArg f ht.symm

/-- What is left of a trimmed text after a front part of it is blank only where
it is empty. -/
lemma Trimmed.trim_suffix_ne_nil {u : Text} (h : Trimmed t) (hsuf : u <:+ t) (hne : u ≠ []) :
    trim u ≠ [] := by
  intro hnil
  obtain ⟨a, rfl⟩ := hsuf
  have hlast : u.getLast hne ∈ (a ++ u).getLast? := by
    rw [List.getLast?_append_of_ne_nil _ hne, List.getLast?_eq_some_getLast hne]
    simp
  have hblank := trim_eq_nil_iff.mp hnil _ (List.getLast_mem hne)
  rw [h.last _ hlast] at hblank
  exact Bool.false_ne_true hblank

/-- A text between a trimmed front and a trimmed rear is trimmed. -/
lemma Trimmed.append {u : Text} (ht : Trimmed t) (hu : Trimmed u) (hne : t ≠ []) (hne' : u ≠ [])
    (s : Text) : Trimmed (t ++ s ++ u) := by
  constructor
  · rw [List.append_assoc, List.head?_append_of_ne_nil _ hne]
    exact ht.head
  · rw [List.getLast?_append_of_ne_nil _ hne']
    exact hu.last

/-! ### Words -/

/-- A word: characters that are not blank, at least one. -/
structure IsWord (w : Text) : Prop where
  ne_nil : w ≠ []
  not_blank : ∀ c ∈ w, isBlank c = false

lemma IsWord.trimmed {w : Text} (h : IsWord w) : Trimmed w :=
  ⟨fun c hc => h.not_blank c (List.mem_of_mem_head? hc),
    fun c hc => h.not_blank c (List.mem_of_getLast? hc)⟩

/-- A word is tidy. -/
lemma IsWord.tidy {w : Text} (h : IsWord w) : Tidy w :=
  ⟨h.trimmed, fun hc => by simpa [isBlank_newline] using h.not_blank _ hc⟩

/-- The code points of identifier characters. -/
lemma toNat_of_isWordChar {c : Char} (hc : isWordChar c = true) :
    48 ≤ c.toNat ∧ c.toNat ≤ 122 := by
  simp only [isWordChar, Char.isAlphanum, Char.isAlpha, Char.isUpper, Char.isLower, Char.isDigit,
    Bool.or_eq_true, Bool.and_eq_true, decide_eq_true_eq, beq_iff_eq, ge_iff_le,
    UInt32.le_iff_toNat_le] at hc
  rcases hc with ((hc | hc) | hc) | rfl
  · exact ⟨le_trans (by decide) hc.1, le_trans hc.2 (by decide)⟩
  · exact ⟨le_trans (by decide) hc.1, le_trans hc.2 (by decide)⟩
  · exact ⟨le_trans (by decide) hc.1, le_trans hc.2 (by decide)⟩
  · decide

/-- An identifier character is not blank. -/
lemma isBlank_of_isWordChar {c : Char} (hc : isWordChar c = true) : isBlank c = false := by
  have hrange := toNat_of_isWordChar hc
  simp only [isBlank, inRanges, blankRanges, List.any_cons, List.any_nil, Bool.or_false,
    Bool.or_eq_false_iff, Bool.and_eq_false_imp, decide_eq_true_eq, decide_eq_false_iff_not]
  omega

/-- The pieces between the characters of a class come from the text and hold none
of the class. -/
lemma mem_splitOnP {w : Text} {c : Char} (hw : w ∈ t.splitOnP p) (hc : c ∈ w) :
    c ∈ t ∧ p c = false := by
  induction t generalizing w with
  | nil => simp_all
  | cons d t ih =>
      rw [List.splitOnP_cons_eq_if_modifyHead] at hw
      obtain ⟨first, rest, hsplit⟩ := List.exists_cons_of_ne_nil (t.splitOnP_ne_nil p)
      rw [hsplit] at hw ih
      split_ifs at hw with hd
      · rcases List.mem_cons.mp hw with rfl | hw
        · simp at hc
        · exact (ih hw hc).imp_left (List.mem_cons_of_mem d)
      · rw [List.modifyHead_cons] at hw
        rcases List.mem_cons.mp hw with rfl | hw
        · rcases List.mem_cons.mp hc with rfl | hc
          · exact ⟨List.mem_cons_self, by simpa using hd⟩
          · exact (ih List.mem_cons_self hc).imp_left (List.mem_cons_of_mem d)
        · exact (ih (List.mem_cons_of_mem _ hw) hc).imp_left (List.mem_cons_of_mem d)

lemma isWord_of_mem_words {w : Text} (h : w ∈ words t) : IsWord w := by
  obtain ⟨hw, hne⟩ := List.mem_filter.mp h
  exact ⟨by simpa using hne, fun c hc => (mem_splitOnP hw hc).2⟩

lemma mem_of_mem_words {w : Text} {c : Char} (h : w ∈ words t) (hc : c ∈ w) : c ∈ t :=
  (mem_splitOnP (List.mem_filter.mp h).1 hc).1

/-- A blank character ends a word. -/
lemma words_append_blank {b : Char} (hb : isBlank b = true) (s t : Text) :
    words (s ++ b :: t) = words s ++ words t := by
  rw [words, List.splitOnP_append_cons s t hb, List.filter_append, words, words]

lemma words_blank_cons {b : Char} (hb : isBlank b = true) (t : Text) :
    words (b :: t) = words t :=
  words_append_blank hb [] t

lemma words_of_isWord {w : Text} (h : IsWord w) : words w = [w] := by
  rw [words, List.splitOnP_eq_singleton h.not_blank]
  simpa using h.ne_nil

/-- A word behind a text that ends in blank space is a word of its own. -/
lemma words_append_word {s w : Text} (hs : ∀ c ∈ s.getLast?, isBlank c = true) (hw : IsWord w) :
    words (s ++ w) = words s ++ [w] := by
  rcases List.eq_nil_or_concat' s with rfl | ⟨s, b, rfl⟩
  · exact words_of_isWord hw
  · have hb : isBlank b = true := hs b (by simp)
    rw [List.append_assoc, List.singleton_append, words_append_blank hb, words_append_blank hb,
      words_of_isWord hw]
    simp [words]

/-- A text that does not end in blank space ends in a word. -/
lemma exists_append_word {s : Text} {d : Char} (hd : d ∈ s.getLast?) (hblank : isBlank d = false) :
    ∃ front w, s = front ++ w ∧ (∀ c ∈ front.getLast?, isBlank c = true) ∧ IsWord w := by
  have hsplit := List.rdropWhile_append_rtakeWhile (p := fun c => !isBlank c) (l := s)
  refine ⟨s.rdropWhile fun c => !isBlank c, s.rtakeWhile fun c => !isBlank c, hsplit.symm,
    fun c hc => ?_, ?_, fun c hc => by simpa using List.mem_rtakeWhile_imp hc⟩
  · have hne : s.rdropWhile (fun c => !isBlank c) ≠ [] := by
      intro hnil
      simp [hnil] at hc
    have hlast := List.rdropWhile_last_not (fun c => !isBlank c) s hne
    have hc' : (s.rdropWhile fun c => !isBlank c).getLast hne = c :=
      Option.some.inj ((List.getLast?_eq_some_getLast hne).symm.trans hc)
    rw [hc'] at hlast
    simpa using hlast
  · intro hnil
    obtain ⟨front, rfl⟩ := List.getLast?_eq_some_iff.mp hd
    simp [hblank] at hnil

/-- A text without blank space is at most one word. -/
lemma words_of_not_blank (h : ∀ c ∈ t, isBlank c = false) :
    words t = [t].filter fun w => !w.isEmpty := by
  by_cases hnil : t = []
  · rw [hnil]
    rfl
  · rw [words_of_isWord ⟨hnil, h⟩]
    simp [hnil]

lemma words_eq_nil_of_blank (h : ∀ c ∈ t, isBlank c = true) : words t = [] := by
  induction t with
  | nil => rfl
  | cons c t ih =>
      rw [words_blank_cons (h c (by simp)), ih fun d hd => h d (List.mem_cons_of_mem _ hd)]

/-- A text without words is blank. -/
lemma words_eq_nil_iff : words t = [] ↔ ∀ c ∈ t, isBlank c = true := by
  refine ⟨fun h => ?_, words_eq_nil_of_blank⟩
  induction t with
  | nil => simp
  | cons c t ih =>
      by_cases hc : isBlank c = true
      · rw [words_blank_cons hc] at h
        simpa [hc] using ih h
      · obtain ⟨first, rest, hsplit⟩ := List.exists_cons_of_ne_nil (t.splitOnP_ne_nil isBlank)
        rw [words, List.splitOnP_cons_eq_if_modifyHead, if_neg hc, hsplit] at h
        simp at h

/-- Trimming takes no word away. -/
@[simp] lemma words_trim (t : Text) : words (trim t) = words t :=
  apply_trim words (fun _ t hc => words_blank_cons hc t)
    (fun _ t hc => (words_append_blank hc t []).trans (List.append_nil _)) t

/-- Words joined by single spaces are the words of the text that they make. -/
lemma words_joinWith : ∀ {ws : List Text}, (∀ w ∈ ws, IsWord w) → words (joinWith " " ws) = ws
  | [], _ => rfl
  | [w], h => by
      rw [joinWith, List.intercalate_singleton]
      exact words_of_isWord (h w (by simp))
  | w :: v :: ws, h => by
      have ih : words (joinWith " " (v :: ws)) = v :: ws :=
        words_joinWith fun u hu => h u (List.mem_cons_of_mem _ hu)
      have hjoin : joinWith " " (w :: v :: ws) = w ++ ' ' :: joinWith " " (v :: ws) := by
        simp [joinWith]
      rw [hjoin, words_append_blank isBlank_space, words_of_isWord (h w (by simp)), ih]
      rfl

/-- Joined texts: the first one, and the separator before every other. -/
lemma joinWith_cons (separator t : Text) (ts : List Text) :
    joinWith separator (t :: ts) = t ++ ts.flatMap (separator ++ ·) := by
  induction ts generalizing t with
  | nil => simp [joinWith]
  | cons u ts ih =>
      rw [joinWith, List.intercalate_cons_cons, ← joinWith, ih u, List.flatMap_cons,
        List.append_assoc, List.append_assoc]

/-- Texts that are joined to some others come behind them, the separator before each. -/
lemma joinWith_append {ts : List Text} (hts : ts ≠ []) (separator : Text) (us : List Text) :
    joinWith separator (ts ++ us) = joinWith separator ts ++ us.flatMap (separator ++ ·) := by
  obtain ⟨t, ts, rfl⟩ := List.exists_cons_of_ne_nil hts
  rw [List.cons_append, joinWith_cons, joinWith_cons, List.flatMap_append, List.append_assoc]

/-- A character of joined texts is one of a text or of the separator. -/
lemma mem_joinWith {separator : Text} {c : Char} {ts : List Text}
    (h : c ∈ joinWith separator ts) : c ∈ separator ∨ ∃ t ∈ ts, c ∈ t := by
  cases ts with
  | nil => simp [joinWith] at h
  | cons t ts =>
      rw [joinWith_cons, List.mem_append, List.mem_flatMap] at h
      rcases h with h | ⟨u, hu, h⟩
      · exact Or.inr ⟨t, by simp, h⟩
      · exact (List.mem_append.mp h).imp_right fun h => ⟨u, List.mem_cons_of_mem t hu, h⟩

/-- One of some joined texts stands in what they make. -/
lemma infix_joinWith {separator t : Text} {ts : List Text} (ht : t ∈ ts) :
    t <:+: joinWith separator ts := by
  obtain ⟨u, us, rfl⟩ := List.exists_cons_of_ne_nil (List.ne_nil_of_mem ht)
  rw [joinWith_cons]
  rcases List.mem_cons.mp ht with rfl | ht
  · exact (List.prefix_append t _).isInfix
  · obtain ⟨before, after, rfl⟩ := List.append_of_mem ht
    refine ⟨u ++ before.flatMap (separator ++ ·) ++ separator, after.flatMap (separator ++ ·), ?_⟩
    simp

lemma notMem_joinWith {separator : Text} {c : Char} {ts : List Text} (hseparator : c ∉ separator)
    (hts : ∀ t ∈ ts, c ∉ t) : c ∉ joinWith separator ts := by
  intro h
  rcases mem_joinWith h with h | ⟨t, ht, h⟩
  · exact hseparator h
  · exact hts t ht h

/-- Texts that begin and end outside blank space do so together, however they are
joined. -/
lemma Trimmed.joinWith {separator : Text} : ∀ {ts : List Text},
    (∀ t ∈ ts, Trimmed t ∧ t ≠ []) → Trimmed (joinWith separator ts)
  | [], _ => trimmed_nil
  | [t], h => by
      rw [Text.joinWith, List.intercalate_singleton]
      exact (h t (by simp)).1
  | t :: u :: ts, h => by
      have ih : Trimmed (Text.joinWith separator (u :: ts)) :=
        Trimmed.joinWith fun v hv => h v (List.mem_cons_of_mem _ hv)
      have hne : Text.joinWith separator (u :: ts) ≠ [] := by
        cases ts with
        | nil => simpa [Text.joinWith] using (h u (by simp)).2
        | cons v ts => simp [Text.joinWith, (h u (by simp)).2]
      rw [Text.joinWith, List.intercalate_cons_cons]
      exact (h t (by simp)).1.append ih (h t (by simp)).2 hne separator

/-- Words joined by single spaces make a tidy text. -/
lemma joinWith_words_tidy {ws : List Text} (h : ∀ w ∈ ws, IsWord w) : Tidy (joinWith " " ws) := by
  refine ⟨Trimmed.joinWith fun w hw => ⟨(h w hw).trimmed, (h w hw).ne_nil⟩, fun hc => ?_⟩
  rcases mem_joinWith hc with hc | ⟨w, hw, hc⟩
  · simp at hc
  · exact (h w hw).tidy.line hc

end Text

end ContractScaffold
