/-
Substitution in templates: a template that is put together from literals and slots is
taken apart into the same literals and slots.

* `Slot`: a placeholder with its comment mark, as a template can hold it;
  `placeholderAt?_eq_some_iff` says that exactly slots are found.
* `pieces_slot`, `pieces_literal`: one step of the search, over a slot and over a
  literal in which no slot begins.
* `flatMap_text_pieces`: the pieces of a template give it back.
* `pieces_append_break`: no slot reaches over the end of a line.
* `Separated`: literals that keep the slots between them apart; `pieces_separated` finds
  these slots and no others.
* `substitute_spec`: the law of substitution.
-/
import ContractScaffold.Template
import ContractScaffold.Proofs.Text.Trim

namespace ContractScaffold

open Text

namespace Template

/-! ### Names in double braces -/

/-- A text without a given front part. -/
lemma isPrefixOf?_eq_some_iff {l t u : Text} : l.isPrefixOf? t = some u ↔ t = l ++ u := by
  induction l generalizing t with
  | nil => simp [List.isPrefixOf?]
  | cons c l ih =>
      cases t with
      | nil => simp [List.isPrefixOf?]
      | cons d t =>
          by_cases hc : c = d
          · simp [List.isPrefixOf?, hc, ih]
          · simp [List.isPrefixOf?, hc, Ne.symm hc]

/-- A name is found exactly where identifier characters stand in double braces. -/
lemma nameAt?_eq_some_iff {t name : Text} : nameAt? t = some name ↔
    name ≠ [] ∧ (∀ c ∈ name, isWordChar c = true) ∧
      ∃ rest, t = opening ++ (name ++ (closing ++ rest)) := by
  constructor
  · intro h
    simp only [nameAt?, Option.bind_eq_bind, Option.bind_eq_some_iff,
      isPrefixOf?_eq_some_iff] at h
    obtain ⟨inner, rfl, rest, hrest, h⟩ := h
    split_ifs at h with hnil
    obtain rfl := Option.some.inj h
    refine ⟨hnil, fun c hc => List.mem_takeWhile_imp hc, rest, ?_⟩
    rw [← hrest, List.takeWhile_append_dropWhile]
  · rintro ⟨hne, hname, rest, rfl⟩
    have hbrace : isWordChar '\x7d' = false := by decide
    have hclosing : closing ++ rest = '\x7d' :: '\x7d' :: rest := rfl
    have hopened : opening.isPrefixOf? (opening ++ (name ++ (closing ++ rest)))
        = some (name ++ (closing ++ rest)) := isPrefixOf?_eq_some_iff.mpr rfl
    have hclosed : closing.isPrefixOf? ('\x7d' :: '\x7d' :: rest) = some rest :=
      isPrefixOf?_eq_some_iff.mpr rfl
    rw [hclosing] at hopened ⊢
    simp only [nameAt?, hopened, Option.bind_eq_bind, Option.bind_some, hclosed,
      takeWhile_until hname hbrace, dropWhile_until hname hbrace, if_neg hne]
    rfl

/-! ### Slots -/

/-- A placeholder as a template can hold it: a name, and before it nothing or two
slashes with spaces and tabs behind them. -/
structure Slot where
  mark : Text
  name : Text
  isMark : mark = [] ∨ ∃ gaps : Text, mark = '/' :: '/' :: gaps ∧ ∀ c ∈ gaps, isMarkGap c = true
  name_ne_nil : name ≠ []
  name_chars : ∀ c ∈ name, isWordChar c = true

namespace Slot

/-- A slot as it stands in a template. -/
def text (x : Slot) : Text :=
  x.mark ++ (opening ++ (x.name ++ closing))

/-- What comes in the place of a slot: the value of its name, without the mark, or the
slot itself where the name has no value. -/
def filled (values : Text → Option Text) (x : Slot) : Text :=
  (values x.name).getD x.text

/-- The slot as a piece of a template. -/
def piece (x : Slot) : Piece :=
  .placeholder x.mark x.name

lemma text_piece (x : Slot) : x.piece.text = x.text := by
  simp [piece, Piece.text, text]

lemma fill_piece (values : Text → Option Text) (x : Slot) :
    x.piece.fill values = x.filled values := by
  rw [filled, ← text_piece]
  rfl

/-- A slot is on one line. -/
lemma newline_notMem_text (x : Slot) : '\n' ∉ x.text := by
  have hname : '\n' ∉ x.name := fun hc => absurd (x.name_chars _ hc) (by decide)
  have hmark : '\n' ∉ x.mark := by
    rcases x.isMark with hmark | ⟨gaps, hmark, hgaps⟩
    · simp [hmark]
    · intro hc
      have hgap : '\n' ∈ gaps := by simpa [hmark] using hc
      exact absurd (hgaps _ hgap) (by decide)
  simp [text, hmark, hname, opening, closing]

/-- A slot begins with its braces, or with the slashes of its mark. -/
lemma text_eq_cons (x : Slot) : (x.mark = [] ∧ ∃ u, x.text = '\x7b' :: '\x7b' :: (x.name ++ u)) ∨
    ∃ u, x.text = '/' :: '/' :: u := by
  rcases x.isMark with hmark | ⟨gaps, hmark, -⟩
  · exact Or.inl ⟨hmark, closing, by simp [text, hmark, opening]⟩
  · exact Or.inr ⟨gaps ++ (opening ++ (x.name ++ closing)), by simp [text, hmark]⟩

end Slot

/-- A slot is found where it stands. -/
lemma placeholderAt?_slot (x : Slot) (t : Text) : placeholderAt? (x.text ++ t) = some x.piece := by
  have hname : nameAt? (opening ++ (x.name ++ (closing ++ t))) = some x.name :=
    nameAt?_eq_some_iff.mpr ⟨x.name_ne_nil, x.name_chars, t, rfl⟩
  rcases x.isMark with hmark | ⟨gaps, hmark, hgaps⟩
  · have htext : x.text ++ t = opening ++ (x.name ++ (closing ++ t)) := by
      simp [Slot.text, hmark]
    have hstep : placeholderAt? (opening ++ (x.name ++ (closing ++ t)))
        = (nameAt? (opening ++ (x.name ++ (closing ++ t)))).map (.placeholder []) := rfl
    rw [htext, hstep, hname, Slot.piece, hmark]
    rfl
  · have htext : x.text ++ t
        = '/' :: '/' :: (gaps ++ '\x7b' :: '\x7b' :: (x.name ++ (closing ++ t))) := by
      simp [Slot.text, hmark, opening]
    have hgap : isMarkGap '\x7b' = false := by decide
    have hname' : nameAt? ('\x7b' :: '\x7b' :: (x.name ++ (closing ++ t))) = some x.name := hname
    rw [htext, placeholderAt?, dropWhile_until hgaps hgap, takeWhile_until hgaps hgap, hname',
      Slot.piece, hmark]
    rfl

/-- **Exactly slots are found**: a text begins with a placeholder where a slot stands. -/
lemma placeholderAt?_eq_some_iff {t : Text} {p : Piece} :
    placeholderAt? t = some p ↔ ∃ x : Slot, x.piece = p ∧ x.text <+: t := by
  constructor
  · intro h
    unfold placeholderAt? at h
    split at h
    · next rest =>
        obtain ⟨name, hname, rfl⟩ := Option.map_eq_some_iff.mp h
        obtain ⟨hne, hchars, tail, htail⟩ := nameAt?_eq_some_iff.mp hname
        have hmark : ∀ c ∈ rest.takeWhile isMarkGap, isMarkGap c = true :=
          fun c hc => List.mem_takeWhile_imp hc
        refine ⟨⟨_, name, Or.inr ⟨_, rfl, hmark⟩, hne, hchars⟩, rfl, tail, ?_⟩
        have hrest := rest.takeWhile_append_dropWhile (p := isMarkGap)
        rw [htail] at hrest
        conv_rhs => rw [← hrest]
        simp [Slot.text]
    · obtain ⟨name, hname, rfl⟩ := Option.map_eq_some_iff.mp h
      obtain ⟨hne, hchars, tail, rfl⟩ := nameAt?_eq_some_iff.mp hname
      exact ⟨⟨[], name, Or.inl rfl, hne, hchars⟩, rfl, tail, by simp [Slot.text]⟩
  · rintro ⟨x, rfl, rest, rfl⟩
    exact placeholderAt?_slot x rest

/-! ### Steps of the search -/

lemma piecesFrom_eq (n : Nat) (t : Text) : piecesFrom n t = pieces (t.drop n) := by
  induction n generalizing t with
  | zero => rfl
  | succ n ih =>
      cases t with
      | nil => rfl
      | cons c t => rw [piecesFrom, ih, List.drop_succ_cons]

/-- A slot is one piece, and the search goes on behind it. -/
lemma pieces_slot (x : Slot) (t : Text) : pieces (x.text ++ t) = x.piece :: pieces t := by
  have hfound := placeholderAt?_slot x t
  obtain ⟨c, u, htext⟩ : ∃ c u, x.text = c :: u := by
    rcases x.text_eq_cons with ⟨-, u, htext⟩ | ⟨u, htext⟩
    · exact ⟨_, _, htext⟩
    · exact ⟨_, _, htext⟩
  rw [htext, List.cons_append] at hfound ⊢
  have hstep : pieces (c :: (u ++ t))
      = x.piece :: piecesFrom (x.piece.text.length - 1) (u ++ t) := by
    simp [pieces, piecesFrom, hfound]
  rw [hstep, piecesFrom_eq, Slot.text_piece, htext, List.length_cons, Nat.add_sub_cancel,
    List.drop_left]

/-- A character at which no slot begins is one piece. -/
lemma pieces_plain {c : Char} {t : Text} (h : placeholderAt? (c :: t) = none) :
    pieces (c :: t) = .plain c :: pieces t := by
  simp [pieces, piecesFrom, h]

/-- What the search meets at the beginning of a text: nothing, a slot, or a character
at which no slot begins. -/
lemma pieces_cases {P : Text → Prop} (hnil : P [])
    (hslot : ∀ (x : Slot) (t : Text), P t → P (x.text ++ t))
    (hplain : ∀ (c : Char) (t : Text), placeholderAt? (c :: t) = none → P t → P (c :: t))
    (t : Text) : P t := by
  induction hn : t.length using Nat.strong_induction_on generalizing t with
  | _ n ih =>
      cases t with
      | nil => exact hnil
      | cons c t =>
          cases hfound : placeholderAt? (c :: t) with
          | none => exact hplain c t hfound (ih t.length (by simp [← hn]) t rfl)
          | some p =>
              obtain ⟨x, -, rest, hrest⟩ := placeholderAt?_eq_some_iff.mp hfound
              have hlength : rest.length < n := by
                have hwhole := congrArg List.length hrest
                have hpos : x.text ≠ [] := by simp [Slot.text, opening]
                have htext := List.length_pos_iff.mpr hpos
                rw [List.length_append] at hwhole
                omega
              rw [← hrest]
              exact hslot x rest (ih rest.length hlength rest rfl)

/-- **The pieces of a template** give it back. -/
lemma flatMap_text_pieces (t : Text) : (pieces t).flatMap Piece.text = t := by
  induction t using pieces_cases with
  | hnil => rfl
  | hslot x t ih => rw [pieces_slot, List.flatMap_cons, ih, Slot.text_piece]
  | hplain c t hnone ih => rw [pieces_plain hnone, List.flatMap_cons, ih]; rfl

/-! ### Lines -/

/-- The end of a line does not change what begins in the line. -/
lemma placeholderAt?_append_break (s t : Text) :
    placeholderAt? (s ++ '\n' :: t) = placeholderAt? s := by
  have hprefix : ∀ x : Slot, x.text <+: s ++ '\n' :: t ↔ x.text <+: s := by
    refine fun x => ⟨fun h => ?_, fun h => h.trans (List.prefix_append s _)⟩
    rcases List.prefix_or_prefix_of_prefix h (List.prefix_append s _) with hs | ⟨u, hu⟩
    · exact hs
    · -- a slot that is longer than the line would hold the line feed
      rw [← hu, List.prefix_append_right_inj] at h
      cases u with
      | nil => exact ⟨[], by rw [← hu]; simp⟩
      | cons c u =>
          obtain ⟨rest, hrest⟩ := h
          have hc : c = '\n' := (List.cons.inj hrest).1
          exact absurd (by simp [← hu, hc]) x.newline_notMem_text
  ext p
  simp only [placeholderAt?_eq_some_iff, hprefix]

/-- **Lines are searched one by one.** -/
lemma pieces_append_break (s t : Text) :
    pieces (s ++ '\n' :: t) = pieces s ++ .plain '\n' :: pieces t := by
  induction s using pieces_cases with
  | hnil =>
      have hnone : placeholderAt? ('\n' :: t) = none := placeholderAt?_append_break [] t
      exact pieces_plain hnone
  | hslot x s ih => rw [List.append_assoc, pieces_slot, ih, pieces_slot, List.cons_append]
  | hplain c s hnone ih =>
      have hnone' : placeholderAt? (c :: (s ++ '\n' :: t)) = none :=
        (placeholderAt?_append_break (c :: s) t).trans hnone
      rw [List.cons_append, pieces_plain hnone', ih, pieces_plain hnone, List.cons_append]

/-! ### Literals between slots -/

/-- A slot without a mark cannot follow a literal that ends with one. -/
def Slot.CanFollow (x : Slot) (lit : Text) : Prop :=
  x.mark = [] → ∀ gaps : Text, (∀ c ∈ gaps, isMarkGap c = true) → ¬ '/' :: '/' :: gaps <:+ lit

/-- A literal and the slots behind it, each with the literal that follows it: no literal
has the opening of a placeholder in it, or ends with a mark that belongs to the next
slot. -/
def Separated : Text → List (Slot × Text) → Prop
  | lit, [] => ¬ opening <:+: lit
  | lit, (x, next) :: rest => ¬ opening <:+: lit ∧ x.CanFollow lit ∧ Separated next rest

/-- No name begins in a literal in front of a slot. -/
lemma nameAt?_literal {u : Text} (hne : u ≠ []) (hu : ¬ opening <:+: u) (x : Slot) (t : Text) :
    nameAt? (u ++ (x.text ++ t)) = none := by
  rw [Option.eq_none_iff_forall_ne_some]
  intro name h
  obtain ⟨hname, hchars, rest, hrest⟩ := nameAt?_eq_some_iff.mp h
  match u with
  | [c] =>
      -- the second brace would be the first of the slot, and the name would begin with one
      have htail : x.text ++ t = '\x7b' :: (name ++ (closing ++ rest)) := (List.cons.inj hrest).2
      rcases x.text_eq_cons with ⟨-, v, hx⟩ | ⟨v, hx⟩
      · rw [hx] at htail
        obtain ⟨d, name, rfl⟩ := List.exists_cons_of_ne_nil hname
        have hd : '\x7b' = d := (List.cons.inj (List.cons.inj htail).2).1
        exact absurd (hchars d (by simp)) (by rw [← hd]; decide)
      · rw [hx] at htail
        exact absurd (List.cons.inj htail).1 (by decide)
  | c :: d :: u =>
      have hc : c = '\x7b' := (List.cons.inj hrest).1
      have hd : d = '\x7b' := (List.cons.inj (List.cons.inj hrest).2).1
      refine hu ⟨[], u, ?_⟩
      rw [hc, hd]
      rfl

/-- No name begins behind two slashes and gaps in a literal in front of a slot that can
follow it. -/
lemma nameAt?_dropWhile_literal {u : Text} (hu : ¬ opening <:+: u) {x : Slot}
    (hx : x.mark = [] → ¬ ∀ c ∈ u, isMarkGap c = true) (t : Text) :
    nameAt? ((u ++ (x.text ++ t)).dropWhile isMarkGap) = none := by
  rw [List.dropWhile_append]
  split_ifs with hgaps
  · have hall : ∀ c ∈ u, isMarkGap c = true := by simpa using hgaps
    rcases x.text_eq_cons with ⟨hmark, -⟩ | ⟨v, htext⟩
    · exact absurd hall (hx hmark)
    · rw [htext, List.cons_append, List.dropWhile_cons_of_neg (by decide)]
      rfl
  · refine nameAt?_literal (by simpa using hgaps) (fun h => hu ?_) x t
    exact h.trans (u.dropWhile_suffix isMarkGap).isInfix

/-- No slot begins in a literal in front of a slot that can follow it. -/
lemma placeholderAt?_literal {u : Text} (hne : u ≠ []) (hu : ¬ opening <:+: u) {x : Slot}
    (hx : x.CanFollow u) (t : Text) : placeholderAt? (u ++ (x.text ++ t)) = none := by
  unfold placeholderAt?
  split
  · next rest hrest =>
      rw [Option.map_eq_none_iff]
      match u with
      | [c] =>
          -- one slash before the mark of the slot
          have htail : x.text ++ t = '/' :: rest := (List.cons.inj hrest).2
          rcases x.text_eq_cons with ⟨-, v, htext⟩ | ⟨v, htext⟩
          · rw [htext] at htail
            exact absurd (List.cons.inj htail).1 (by decide)
          · rw [htext] at htail
            obtain rfl : '/' :: (v ++ t) = rest := (List.cons.inj htail).2
            rw [List.dropWhile_cons_of_neg (by decide)]
            rfl
      | c :: d :: u =>
          obtain rfl : c = '/' := (List.cons.inj hrest).1
          obtain rfl : d = '/' := (List.cons.inj (List.cons.inj hrest).2).1
          obtain rfl : u ++ (x.text ++ t) = rest := (List.cons.inj (List.cons.inj hrest).2).2
          have hsuffix : u <:+ '/' :: '/' :: u := ⟨['/', '/'], rfl⟩
          refine nameAt?_dropWhile_literal (fun h => hu (h.trans hsuffix.isInfix)) ?_ t
          exact fun hmark hgaps => hx hmark u hgaps List.suffix_rfl
  · rw [nameAt?_literal hne hu, Option.map_none]

/-- Nothing begins in a text without the opening of a placeholder. -/
lemma placeholderAt?_eq_none {t : Text} (ht : ¬ opening <:+: t) : placeholderAt? t = none := by
  rw [Option.eq_none_iff_forall_ne_some]
  intro p h
  obtain ⟨x, -, hx⟩ := placeholderAt?_eq_some_iff.mp h
  exact ht (List.IsInfix.trans ⟨x.mark, x.name ++ closing, by simp [Slot.text]⟩ hx.isInfix)

/-- A literal in which no slot begins is searched character by character. -/
lemma pieces_literal {lit t : Text}
    (h : ∀ u, u <:+ lit → u ≠ [] → placeholderAt? (u ++ t) = none) :
    pieces (lit ++ t) = lit.map .plain ++ pieces t := by
  induction lit with
  | nil => rfl
  | cons c lit ih =>
      have hnone : placeholderAt? (c :: (lit ++ t)) = none := h (c :: lit) List.suffix_rfl (by simp)
      have ih := ih fun u hu hne => h u (hu.trans (List.suffix_cons c lit)) hne
      rw [List.cons_append, pieces_plain hnone, ih]
      rfl

/-- **Separated slots are found**, and no others. -/
lemma pieces_separated {lit : Text} {rest : List (Slot × Text)} (h : Separated lit rest) :
    pieces (lit ++ rest.flatMap fun y => y.1.text ++ y.2)
      = lit.map .plain ++ rest.flatMap fun y => y.1.piece :: y.2.map .plain := by
  induction rest generalizing lit with
  | nil =>
      refine pieces_literal fun u hu _ => ?_
      rw [List.flatMap_nil, List.append_nil]
      exact placeholderAt?_eq_none fun hopening => h (hopening.trans hu.isInfix)
  | cons y rest ih =>
      obtain ⟨x, next⟩ := y
      obtain ⟨hlit, hx, hrest⟩ := h
      have ih := ih hrest
      rw [List.flatMap_cons, List.append_assoc, pieces_literal, pieces_slot, ih]
      · simp
      · intro u hu hne
        refine placeholderAt?_literal hne (fun h => hlit (h.trans hu.isInfix)) ?_ _
        exact fun hmark gaps hgaps hsuffix => hx hmark gaps hgaps (hsuffix.trans hu)

/-! ### The law of substitution -/

lemma flatMap_fill_plain (values : Text → Option Text) (t : Text) :
    (t.map Piece.plain).flatMap (Piece.fill values) = t := by
  induction t with
  | nil => rfl
  | cons c t ih => rw [List.map_cons, List.flatMap_cons, ih]; rfl

lemma filterMap_name?_plain (t : Text) : (t.map Piece.plain).filterMap Piece.name? = [] := by
  induction t with
  | nil => rfl
  | cons c t ih => rw [List.map_cons, List.filterMap_cons]; exact ih

/-- Separated slots are filled one by one, and what fills one is not searched again. -/
lemma substitute_separated (values : Text → Option Text) {lit : Text} {rest : List (Slot × Text)}
    (h : Separated lit rest) :
    substitute values (lit ++ rest.flatMap fun y => y.1.text ++ y.2)
      = lit ++ rest.flatMap fun y => y.1.filled values ++ y.2 := by
  rw [substitute, pieces_separated h, List.flatMap_append, flatMap_fill_plain, List.flatMap_assoc]
  refine congrArg (lit ++ ·) (List.flatMap_congr fun y _ => ?_)
  rw [List.flatMap_cons, Slot.fill_piece, flatMap_fill_plain]

lemma placeholders_separated {lit : Text} {rest : List (Slot × Text)} (h : Separated lit rest) :
    placeholders (lit ++ rest.flatMap fun y => y.1.text ++ y.2) = rest.map fun y => y.1.name := by
  rw [placeholders, pieces_separated h, List.filterMap_append, filterMap_name?_plain,
    List.nil_append]
  clear h
  induction rest with
  | nil => rfl
  | cons y rest ih =>
      rw [List.flatMap_cons, List.filterMap_append, ih, List.filterMap_cons, filterMap_name?_plain]
      rfl

/-- Without values for its placeholders a template stays as it is. -/
lemma substitute_eq_self {values : Text → Option Text} {t : Text}
    (h : ∀ name ∈ placeholders t, values name = none) : substitute values t = t := by
  have hfill : ∀ p ∈ pieces t, p.fill values = p.text := by
    intro p hp
    cases p with
    | plain c => rfl
    | placeholder mark name =>
        have hname : name ∈ placeholders t := List.mem_filterMap.mpr ⟨_, hp, rfl⟩
        rw [Piece.fill, h name hname]
        rfl
  calc substitute values t = (pieces t).flatMap Piece.text := List.flatMap_congr hfill
    _ = t := flatMap_text_pieces t

/-- **The law of substitution.** In a template that is made of separated slots each slot
is filled in its place and everything else stays; the placeholders are the names of the
slots; a text is filled line by line; and a template stays as it is where none of its
placeholders has a value. -/
theorem substitute_spec (values : Text → Option Text) :
    (∀ lit rest, Separated lit rest →
      substitute values (lit ++ rest.flatMap fun y => y.1.text ++ y.2)
          = lit ++ rest.flatMap (fun y => y.1.filled values ++ y.2)
        ∧ placeholders (lit ++ rest.flatMap fun y => y.1.text ++ y.2) = rest.map fun y => y.1.name)
      ∧ (∀ s t, substitute values (s ++ '\n' :: t)
          = substitute values s ++ '\n' :: substitute values t)
      ∧ ∀ t, (∀ name ∈ placeholders t, values name = none) → substitute values t = t := by
  refine ⟨fun lit rest h => ?_, fun s t => ?_, fun t h => substitute_eq_self h⟩
  · exact ⟨substitute_separated values h, placeholders_separated h⟩
  · rw [substitute, pieces_append_break, List.flatMap_append, List.flatMap_cons]
    rfl

/-- A slash before a mark, a brace before a slot, and a value that looks like slots. -/
theorem substitute_spec_slash :
    Separated "a /"
        [(⟨"// ", "A", Or.inr ⟨" ", rfl, by simp [isMarkGap]⟩, by decide,
            List.all_eq_true.mp (by decide)⟩, "\x7b"),
          (⟨[], "B", Or.inl rfl, by decide, List.all_eq_true.mp (by decide)⟩, " /\x7d\x7d")]
      ∧ substitute (fun name => if name = "A" then some "//\x7b\x7bB\x7d\x7d" else none)
          "a /// \x7b\x7bA\x7d\x7d\x7b\x7b\x7bB\x7d\x7d /\x7d\x7d"
        = "a ///\x7b\x7bB\x7d\x7d\x7b\x7b\x7bB\x7d\x7d /\x7d\x7d"
      ∧ (∀ name ∈ placeholders "//\x7b\x7bB\x7d\x7d",
          (if name = "A" then some ("a" : Text) else none) = none)
      ∧ substitute (fun name => if name = "A" then some "a" else none) "//\x7b\x7bB\x7d\x7d"
        = "//\x7b\x7bB\x7d\x7d" := by
  have hmark : ("// " : Text) ≠ [] := by decide
  have hbrace : ∀ gaps : Text, ¬ '/' :: '/' :: gaps <:+ ("\x7b" : Text) :=
    fun gaps hsuffix => absurd (hsuffix.subset List.mem_cons_self) (by decide)
  have hlast : ¬ opening <:+: (" /\x7d\x7d" : Text) := by decide
  have hseparated : Separated "a /"
      [(⟨"// ", "A", Or.inr ⟨" ", rfl, by simp [isMarkGap]⟩, by decide,
          List.all_eq_true.mp (by decide)⟩, "\x7b"),
        (⟨[], "B", Or.inl rfl, by decide, List.all_eq_true.mp (by decide)⟩, " /\x7d\x7d")] :=
    ⟨by decide, fun h => absurd h hmark, by decide, fun _ gaps _ => hbrace gaps, hlast⟩
  have hnone : ∀ name ∈ placeholders "//\x7b\x7bB\x7d\x7d",
      (if name = "A" then some ("a" : Text) else none) = none := by decide
  exact ⟨hseparated, ((substitute_spec _).1 _ _ hseparated).1, hnone,
    (substitute_spec _).2.2 _ hnone⟩

end Template

end ContractScaffold
