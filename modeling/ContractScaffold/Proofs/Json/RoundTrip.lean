/-
Values written in a layout and read again.

* `Json.ind`: induction on a value.
* `ofDigits_decimal`, `head?_decimal`: the digits of a number write it, without a zero in
  front.
* `stringBody?_escaped`, `stringBody?_quoted`: an escaped character, and a string up to
  its closing quote, are read back.
* `Layout.IsGapped`: layouts that put nothing but blank space between tokens.
* `ReadsBack`: a value is read back wherever it stands in a text; `itemsAt?_print` and
  `membersAt?_print` carry it over to what an array and an object hold.
* `ofText?_print`: every value is read back, in every such layout.
-/
import Mathlib
import ContractScaffold.Json.Reading

namespace ContractScaffold

open Text

/-! ### Digits -/

namespace Text

lemma decimal_ne_nil (n : ℕ) : decimal n ≠ [] :=
  Nat.toDigits_ne_nil

lemma isDigit_of_mem_decimal {n : ℕ} : ∀ c ∈ decimal n, c.isDigit = true := fun _ =>
  Nat.isDigit_of_mem_toDigits (by omega) (by omega)

/-- The digits of a number write it. -/
lemma ofDigits_decimal (n : ℕ) : ofDigits 10 (decimal n) = n := by
  have hdigits : ∀ (ds : Text) (m : ℕ), (∀ c ∈ ds, c.isDigit = true) →
      ds.foldl (fun k c => 10 * k + digitValue c) m = Nat.ofDigitChars 10 ds m := by
    intro ds
    induction ds with
    | nil => intro m _; rfl
    | cons c ds ih =>
        intro m hds
        rw [List.foldl_cons, ih _ fun d hd => hds d (List.mem_cons_of_mem c hd), digitValue,
          if_pos (hds c (by simp)), Nat.ofDigitChars_cons]
  rw [ofDigits, hdigits _ 0 isDigit_of_mem_decimal]
  exact Nat.ofDigitChars_toDigits (by omega) (by omega)

/-- A number other than zero does not begin with a zero. -/
lemma head?_decimal {n : ℕ} (hn : 0 < n) : (decimal n).head? ≠ some '0' := by
  induction n using Nat.strong_induction_on with
  | _ n ih =>
      rw [decimal, Nat.toDigits_eq_if (by omega)]
      split_ifs with hsmall
      · have hdigit : ∀ m < 10, 0 < m → m.digitChar ≠ '0' := by decide
        simpa using hdigit n hsmall hn
      · have hrest := ih (n / 10) (by omega) (by omega)
        rwa [List.head?_append_of_ne_nil _ Nat.toDigits_ne_nil]

end Text

namespace Json

/-- A count is read from its digits. -/
lemma ofCount?_decimal (n : ℕ) : ofCount? (decimal n) = some (.number n) := by
  have hzero : ¬ ((decimal n).head? = some '0' ∧ 1 < (decimal n).length) := by
    rintro ⟨hhead, hlength⟩
    rcases Nat.eq_zero_or_pos n with rfl | hn
    · exact absurd hlength (by decide)
    · exact head?_decimal hn hhead
  rw [ofCount?, if_neg (by rintro (h | h); exacts [decimal_ne_nil n h, hzero h]), ofDigits_decimal]

/-! ### Strings -/

/-- A control character is read from the two digits of its escape. -/
lemma ofHex?_control :
    ∀ n < 0x20, ofHex? ['0', '0', (n / 16).digitChar, (n % 16).digitChar] = some n := by
  decide

/-- An escaped character is read back. -/
lemma stringBody?_escaped (c : Char) (t : Text) :
    stringBody? (escaped c ++ t) = consChar c (stringBody? t) := by
  rw [escaped]
  split_ifs with hquote hslash hb hf hn hr ht hcontrol
  · subst hquote; rfl
  · subst hslash; rfl
  · subst hb; rfl
  · subst hf; rfl
  · subst hn; rfl
  · subst hr; rfl
  · subst ht; rfl
  · have hlead : isLead c.toNat = false := by
      simp only [isLead, Bool.and_eq_false_iff, decide_eq_false_iff_not]
      omega
    have hunit : ofUnit? c.toNat = some c := by
      rw [ofUnit?, if_pos (show c.toNat.isValidChar from c.valid), Char.ofNat_toNat]
    simp only [String.reduceToList, List.cons_append, List.nil_append]
    rw [stringBody?, ofHex?_control _ hcontrol]
    simp [hlead, hunit]
  · rw [List.singleton_append, stringBody?.eq_def]
    split <;> simp_all

/-- **A string is read back** up to its closing quote. -/
lemma stringBody?_quoted (s rest : Text) :
    stringBody? (s.flatMap escaped ++ '\x22' :: rest) = some (s, rest) := by
  induction s with
  | nil => rfl
  | cons c s ih => rw [List.flatMap_cons, List.append_assoc, stringBody?_escaped, ih]; rfl

/-! ### Blank space between tokens -/

end Json

/-- A layout that puts nothing but blank space between tokens. -/
structure Layout.IsGapped (layout : Layout) : Prop where
  colon : ∃ g, layout.colon = ':' :: g ∧ ∀ c ∈ g, Json.isGap c = true
  lineBreak : ∀ depth, ∀ c ∈ layout.lineBreak depth, Json.isGap c = true

namespace Layout

lemma isGapped_compact : compact.IsGapped where
  colon := ⟨[], rfl, by simp⟩
  lineBreak := by simp [compact]

lemma isGapped_indented : indented.IsGapped where
  colon := ⟨[' '], rfl, by simp [Json.isGap]⟩
  lineBreak depth c hc := by
    rcases List.mem_cons.mp hc with rfl | hc
    · rfl
    · rw [List.eq_of_mem_replicate hc]; rfl

end Layout

namespace Json

lemma isAlphanum_of_isDigit {c : Char} (hc : c.isDigit = true) : c.isAlphanum = true := by
  simp [Char.isAlphanum, hc]

lemma isAlphanum_of_isGap {c : Char} (hc : isGap c = true) : c.isAlphanum = false := by
  simp only [isGap, Bool.or_eq_true, beq_iff_eq] at hc
  rcases hc with ((rfl | rfl) | rfl) | rfl <;> rfl

lemma isGap_of_isAlphanum {c : Char} (hc : c.isAlphanum = true) : isGap c = false :=
  Bool.eq_false_of_not_eq_true fun hgap => by simp [isAlphanum_of_isGap hgap] at hc

/-- Blank space is left aside. -/
lemma dropGap_append {g : Text} (hg : ∀ c ∈ g, isGap c = true) (t : Text) :
    dropGap (g ++ t) = dropGap t :=
  List.dropWhile_append_of_pos hg

/-- Nothing is left aside in front of a token. -/
lemma dropGap_cons {c : Char} (hc : isGap c = false) (t : Text) : dropGap (c :: t) = c :: t :=
  List.dropWhile_cons_of_neg (by simp [hc])

lemma valueAt?_append_gap {g : Text} (hg : ∀ c ∈ g, isGap c = true) (steps : ℕ) (t : Text) :
    valueAt? steps (g ++ t) = valueAt? steps t := by
  cases steps with
  | zero => rfl
  | succ steps => rw [valueAt?, valueAt?, dropGap_append hg]

lemma itemsAt?_append_gap {g : Text} (hg : ∀ c ∈ g, isGap c = true) (steps : ℕ) (t : Text) :
    itemsAt? steps (g ++ t) = itemsAt? steps t := by
  cases steps with
  | zero => rfl
  | succ steps => rw [itemsAt?, itemsAt?, valueAt?_append_gap hg]

lemma membersAt?_append_gap {g : Text} (hg : ∀ c ∈ g, isGap c = true) (steps : ℕ) (t : Text) :
    membersAt? steps (g ++ t) = membersAt? steps t := by
  cases steps with
  | zero => rfl
  | succ steps => rw [membersAt?, membersAt?, dropGap_append hg]

/-- A value begins neither with blank space nor with the end of an array. -/
lemma exists_print_eq_cons (layout : Layout) (depth : ℕ) (j : Json) :
    ∃ c t, print layout depth j = c :: t ∧ isGap c = false ∧ c ≠ ']' := by
  cases j with
  | null => exact ⟨_, _, rfl, by decide, by decide⟩
  | bool b => cases b <;> exact ⟨_, _, rfl, by decide, by decide⟩
  | number n =>
      obtain ⟨c, t, ht⟩ := List.exists_cons_of_ne_nil (decimal_ne_nil n)
      have hc := isDigit_of_mem_decimal c (ht ▸ List.mem_cons_self)
      exact ⟨c, t, by rw [print, ht], isGap_of_isAlphanum (isAlphanum_of_isDigit hc),
        by rintro rfl; simp at hc⟩
  | string t => exact ⟨_, _, rfl, by decide, by decide⟩
  | array items => cases items <;> exact ⟨_, _, rfl, by decide, by decide⟩
  | object members => cases members <;> exact ⟨_, _, rfl, by decide, by decide⟩

/-! ### Words -/

/-- A word ends where the letters and digits end. -/
lemma wordAt?_append {word rest : Text} (hword : ∀ c ∈ word, c.isAlphanum = true)
    (hrest : ∀ c ∈ rest.head?, c.isAlphanum = false) :
    wordAt? (word ++ rest) =
      if word = "null" then some (.null, rest)
      else if word = "true" then some (.bool true, rest)
      else if word = "false" then some (.bool false, rest)
      else if word.all Char.isDigit then (ofCount? word).map fun value => (value, rest)
      else none := by
  have hstop : rest.takeWhile Char.isAlphanum = [] ∧ rest.dropWhile Char.isAlphanum = rest := by
    cases rest with
    | nil => exact ⟨rfl, rfl⟩
    | cons c rest => simp [hrest c rfl]
  rw [wordAt?, List.takeWhile_append_of_pos hword, List.dropWhile_append_of_pos hword,
    hstop.1, hstop.2, List.append_nil]

/-- A value that begins with a letter or a digit is a word. -/
lemma valueAt?_eq_wordAt? {word : Text} (hne : word ≠ []) (hword : ∀ c ∈ word, c.isAlphanum = true)
    (steps : ℕ) (rest : Text) : valueAt? (steps + 1) (word ++ rest) = wordAt? (word ++ rest) := by
  obtain ⟨c, word, rfl⟩ := List.exists_cons_of_ne_nil hne
  have hc := hword c List.mem_cons_self
  rw [valueAt?, List.cons_append, dropGap_cons (isGap_of_isAlphanum hc)]
  split <;> rename_i heq
  · cases heq; simp at hc
  · cases heq; simp at hc
  · cases heq; simp at hc
  · rfl

/-! ### Values -/

/-- Induction on a value: through the items of an array and the values of the members
of an object. -/
@[elab_as_elim]
lemma ind {P : Json → Prop} (null : P null) (bool : ∀ b, P (bool b)) (number : ∀ n, P (number n))
    (string : ∀ t, P (string t)) (array : ∀ items, (∀ j ∈ items, P j) → P (array items))
    (object : ∀ members, (∀ m ∈ members, P m.2) → P (object members)) : ∀ j, P j :=
  Json.rec (motive_1 := P) (motive_2 := fun items => ∀ j ∈ items, P j)
    (motive_3 := fun members => ∀ m ∈ members, P m.2) (motive_4 := fun m => P m.2)
    null bool number string array object
    (by simp) (fun _ _ hitem hitems => List.forall_mem_cons.mpr ⟨hitem, hitems⟩)
    (by simp) (fun _ _ hmember hmembers => List.forall_mem_cons.mpr ⟨hmember, hmembers⟩)
    (fun _ _ hvalue => hvalue)

/-- A value that is read back wherever its text stands, in as many steps as the text
has characters. What comes after it must not carry a word on. -/
def ReadsBack (layout : Layout) (j : Json) : Prop :=
  ∀ steps depth rest, (print layout depth j).length ≤ steps →
    (∀ c ∈ rest.head?, c.isAlphanum = false) →
    valueAt? steps (print layout depth j ++ rest) = some (j, rest)

section Nested

variable {layout : Layout}

/-- Blank space and what is neither a letter nor a digit do not carry a word on. -/
lemma isAlphanum_of_mem_head? {g rest : Text} (hg : ∀ c ∈ g, isGap c = true) {d : Char}
    (hd : d.isAlphanum = false) : ∀ c ∈ (g ++ d :: rest).head?, c.isAlphanum = false := by
  cases g with
  | nil => rintro c ⟨⟩; exact hd
  | cons b g => rintro c ⟨⟩; exact isAlphanum_of_isGap (hg b List.mem_cons_self)

/-- The items of an array are read back, up to its closing bracket. -/
lemma itemsAt?_print (hlayout : layout.IsGapped) (depth : ℕ) (rest : Text) {g : Text}
    (hg : ∀ c ∈ g, isGap c = true) (items : List Json) :
    ∀ item, ReadsBack layout item → (∀ j ∈ items, ReadsBack layout j) → ∀ steps,
      (print layout depth item).length + (printItems layout depth items).length < steps →
      itemsAt? steps (print layout depth item ++ (printItems layout depth items ++
        (g ++ ']' :: rest))) = some (item :: items, rest) := by
  induction items with
  | nil =>
      intro item hitem _ steps hsteps
      obtain ⟨steps, rfl⟩ : ∃ n, steps = n + 1 := ⟨steps - 1, by omega⟩
      rw [itemsAt?, printItems, List.nil_append,
        hitem steps depth _ (by omega) (isAlphanum_of_mem_head? hg (by decide))]
      simp [dropGap_append hg, dropGap_cons (show isGap ']' = false from rfl)]
  | cons next items ih =>
      intro item hitem hitems steps hsteps
      obtain ⟨steps, rfl⟩ : ∃ n, steps = n + 1 := ⟨steps - 1, by omega⟩
      simp only [printItems, List.cons_append, List.length_cons, List.length_append,
        List.append_assoc] at hsteps ⊢
      have hrest := ih next (hitems next List.mem_cons_self)
        (fun j hj => hitems j (List.mem_cons_of_mem _ hj)) steps (by omega)
      rw [itemsAt?, hitem steps depth _ (by omega) (by rintro c ⟨⟩; rfl)]
      simp [dropGap_cons (show isGap ',' = false from rfl),
        itemsAt?_append_gap (hlayout.lineBreak depth), hrest]

/-- A member is read back, its key and its value. -/
lemma membersAt?_printMember (hlayout : layout.IsGapped) {member : Text × Json}
    (hmember : ReadsBack layout member.2) {depth steps : ℕ} {rest : Text}
    (hsteps : (printMember layout depth member).length ≤ steps)
    (hrest : ∀ c ∈ rest.head?, c.isAlphanum = false) :
    membersAt? (steps + 1) (printMember layout depth member ++ rest) =
      match dropGap rest with
      | '\x7d' :: rest => some ([member], rest)
      | ',' :: next => (membersAt? steps next).bind fun r => some (member :: r.1, r.2)
      | _ => none := by
  obtain ⟨g, hcolon, hg⟩ := hlayout.colon
  obtain ⟨key, value⟩ := member
  replace hmember : ReadsBack layout value := hmember
  have hquote : ∀ t, dropGap ('\x22' :: t) = '\x22' :: t := dropGap_cons rfl
  have hsign : ∀ t, dropGap (':' :: t) = ':' :: t := dropGap_cons rfl
  simp only [printMember, hcolon, quoted, List.cons_append, List.append_assoc,
    List.nil_append, List.length_append, List.length_cons] at hsteps ⊢
  have hvalue := hmember steps depth rest (by omega) hrest
  rw [membersAt?]
  simp only [hquote, after?, ↓reduceIte, Option.bind_eq_bind, Option.bind_some,
    stringBody?_quoted, hsign, valueAt?_append_gap hg, hvalue]
  rfl

/-- The members of an object are read back, up to its closing brace. -/
lemma membersAt?_print (hlayout : layout.IsGapped) (depth : ℕ) (rest : Text) {g : Text}
    (hg : ∀ c ∈ g, isGap c = true) (members : List (Text × Json)) :
    ∀ member, ReadsBack layout member.2 → (∀ m ∈ members, ReadsBack layout m.2) → ∀ steps,
      (printMember layout depth member).length + (printMembers layout depth members).length
        < steps →
      membersAt? steps (printMember layout depth member ++ (printMembers layout depth members ++
        (g ++ '\x7d' :: rest))) = some (member :: members, rest) := by
  induction members with
  | nil =>
      intro member hmember _ steps hsteps
      obtain ⟨steps, rfl⟩ : ∃ n, steps = n + 1 := ⟨steps - 1, by omega⟩
      rw [printMembers, List.nil_append, membersAt?_printMember hlayout hmember (by omega)
        (isAlphanum_of_mem_head? hg (by decide)), dropGap_append hg, dropGap_cons rfl]
      rfl
  | cons next members ih =>
      intro member hmember hmembers steps hsteps
      obtain ⟨steps, rfl⟩ : ∃ n, steps = n + 1 := ⟨steps - 1, by omega⟩
      simp only [printMembers, List.cons_append, List.length_cons, List.length_append,
        List.append_assoc] at hsteps ⊢
      have hrest := ih next (hmembers next List.mem_cons_self)
        (fun m hm => hmembers m (List.mem_cons_of_mem _ hm)) steps (by omega)
      rw [membersAt?_printMember hlayout hmember (by omega) (by rintro c ⟨⟩; rfl),
        dropGap_cons rfl]
      simp [membersAt?_append_gap (hlayout.lineBreak depth), hrest]

/-- The text of a value has a character, so that there is a step to read it in. -/
lemma readsBack_of_succ {j : Json}
    (h : ∀ steps depth rest, (print layout depth j).length ≤ steps + 1 →
      (∀ c ∈ rest.head?, c.isAlphanum = false) →
      valueAt? (steps + 1) (print layout depth j ++ rest) = some (j, rest)) :
    ReadsBack layout j := by
  intro steps depth rest hsteps hrest
  obtain ⟨c, t, ht, -⟩ := exists_print_eq_cons layout depth j
  cases steps with
  | zero => simp [ht] at hsteps
  | succ steps => exact h steps depth rest hsteps hrest

/-- An array is read back if what it holds is. -/
lemma readsBack_array (hlayout : layout.IsGapped) {items : List Json}
    (hitems : ∀ j ∈ items, ReadsBack layout j) : ReadsBack layout (array items) := by
  refine readsBack_of_succ fun steps depth rest hsteps _ => ?_
  cases items with
  | nil => rfl
  | cons item items =>
      simp only [print, List.cons_append, List.append_assoc, List.nil_append, List.length_cons,
        List.length_append] at hsteps ⊢
      obtain ⟨c, t, hprint, hgap, hbracket⟩ := exists_print_eq_cons layout (depth + 1) item
      have hread := itemsAt?_print hlayout (depth + 1) rest (hlayout.lineBreak depth) items item
        (hitems item List.mem_cons_self) (fun j hj => hitems j (List.mem_cons_of_mem _ hj))
        steps (by omega)
      rw [valueAt?, dropGap_cons rfl]
      simp only [dropGap_append (hlayout.lineBreak _), itemsAt?_append_gap (hlayout.lineBreak _),
        hread]
      rw [hprint, List.cons_append, dropGap_cons hgap]
      split
      · rename_i heq; cases heq; exact absurd rfl hbracket
      · rfl

/-- An object is read back if the values of its members are. -/
lemma readsBack_object (hlayout : layout.IsGapped) {members : List (Text × Json)}
    (hmembers : ∀ m ∈ members, ReadsBack layout m.2) : ReadsBack layout (object members) := by
  refine readsBack_of_succ fun steps depth rest hsteps _ => ?_
  cases members with
  | nil => rfl
  | cons member members =>
      simp only [print, List.cons_append, List.append_assoc, List.nil_append, List.length_cons,
        List.length_append] at hsteps ⊢
      have hread := membersAt?_print hlayout (depth + 1) rest (hlayout.lineBreak depth) members
        member (hmembers member List.mem_cons_self)
        (fun m hm => hmembers m (List.mem_cons_of_mem _ hm)) steps (by omega)
      rw [valueAt?, dropGap_cons rfl]
      simp only [dropGap_append (hlayout.lineBreak _), membersAt?_append_gap (hlayout.lineBreak _),
        hread]
      rw [printMember, quoted]
      simp only [List.cons_append]
      rw [dropGap_cons rfl]
      rfl

/-- **Every value is read back**, in a layout with nothing but blank space between tokens. -/
lemma readsBack (hlayout : layout.IsGapped) (j : Json) : ReadsBack layout j := by
  induction j using Json.ind with
  | null =>
      refine readsBack_of_succ fun steps depth rest _ hrest => ?_
      have hword : ∀ c ∈ ("null" : Text), c.isAlphanum = true := List.all_eq_true.mp (by decide)
      rw [print, valueAt?_eq_wordAt? (by decide) hword, wordAt?_append hword hrest, if_pos rfl]
  | bool b =>
      refine readsBack_of_succ fun steps depth rest _ hrest => ?_
      cases b with
      | false =>
          have hword : ∀ c ∈ ("false" : Text), c.isAlphanum = true :=
            List.all_eq_true.mp (by decide)
          rw [print, valueAt?_eq_wordAt? (by decide) hword, wordAt?_append hword hrest,
            if_neg (by decide), if_neg (by decide), if_pos rfl]
      | true =>
          have hword : ∀ c ∈ ("true" : Text), c.isAlphanum = true := List.all_eq_true.mp (by decide)
          rw [print, valueAt?_eq_wordAt? (by decide) hword, wordAt?_append hword hrest,
            if_neg (by decide), if_pos rfl]
  | number n =>
      refine readsBack_of_succ fun steps depth rest _ hrest => ?_
      have hdigits : (decimal n).all Char.isDigit = true :=
        List.all_eq_true.mpr isDigit_of_mem_decimal
      have hword : ∀ c ∈ decimal n, c.isAlphanum = true := fun c hc =>
        isAlphanum_of_isDigit (isDigit_of_mem_decimal c hc)
      have hne : ∀ word : Text, word.all Char.isDigit = false → decimal n ≠ word := by
        rintro _ hother rfl
        exact Bool.false_ne_true (hother.symm.trans hdigits)
      rw [print, valueAt?_eq_wordAt? (decimal_ne_nil n) hword, wordAt?_append hword hrest,
        if_neg (hne _ (by decide)), if_neg (hne _ (by decide)), if_neg (hne _ (by decide)),
        if_pos hdigits, ofCount?_decimal]
      rfl
  | string t =>
      refine readsBack_of_succ fun steps depth rest _ _ => ?_
      simp only [print, quoted, List.cons_append, List.append_assoc, List.nil_append]
      rw [valueAt?, dropGap_cons rfl]
      simp [stringBody?_quoted]
  | array items ih => exact readsBack_array hlayout ih
  | object members ih => exact readsBack_object hlayout ih

/-- **The text of a value is read back as that value**, whatever blank space comes
after it. -/
theorem ofText?_print (hlayout : layout.IsGapped) (j : Json) (depth : ℕ) {g : Text}
    (hg : ∀ c ∈ g, isGap c = true) : ofText? (print layout depth j ++ g) = some j := by
  have hread := readsBack hlayout j ((print layout depth j ++ g).length + 1) depth g
    (by rw [List.length_append]; omega)
    fun c hc => isAlphanum_of_isGap (hg c (List.mem_of_mem_head? hc))
  have hend : dropGap g = [] := List.dropWhile_eq_nil_iff.mpr hg
  rw [ofText?, hread]
  simp [hend]

end Nested

end Json

end ContractScaffold
