/-
Templates whose literals cannot grow new placeholders, whatever fills their slots.

* `sealsBraces`: every opening brace among the pieces of a template is followed by another
  character of its literal; `sealsBraces_append` puts pieces together.
* `IsSealed`: the same for a text; `IsSealed.append`, `IsSealed.joinWith` and
  `isSealed_of_notMem` build such texts, and `IsSealed.placeholders_eq_nil` says that they
  hold no placeholder.
* `exists_separated`: a template with sealed literals comes apart into literals and slots.
* `isSealed_filled`: filled with sealed values it is sealed.
-/
import ContractScaffold.Proofs.Template

namespace ContractScaffold

open Text

namespace Template

/-! ### Sealed pieces -/

/-- A character that stands for itself and is not an opening brace. -/
def Piece.isOther : Piece → Bool
  | plain c => c != '\x7b'
  | placeholder _ _ => false

/-- Whether every opening brace is followed by another character of its literal. -/
def sealsBraces : List Piece → Bool
  | [] => true
  | .placeholder _ _ :: ps => sealsBraces ps
  | .plain c :: ps => (c != '\x7b' || ps.head?.any Piece.isOther) && sealsBraces ps

/-- Sealed pieces stay so behind others. -/
lemma sealsBraces_append {ps qs : List Piece} (hps : sealsBraces ps = true)
    (hqs : sealsBraces qs = true) : sealsBraces (ps ++ qs) = true := by
  induction ps with
  | nil => exact hqs
  | cons p ps ih =>
      cases p with
      | placeholder mark name => exact ih hps
      | plain c =>
          simp only [sealsBraces, List.cons_append, Bool.and_eq_true, Bool.or_eq_true] at hps ⊢
          refine ⟨hps.1.imp_right fun hnext => ?_, ih hps.2⟩
          cases ps with
          | nil => simp at hnext
          | cons q ps => exact hnext

/-- Groups of sealed pieces are sealed together. -/
lemma sealsBraces_flatMap {α : Type*} {group : α → List Piece} {xs : List α}
    (h : ∀ x ∈ xs, sealsBraces (group x) = true) : sealsBraces (xs.flatMap group) = true := by
  induction xs with
  | nil => rfl
  | cons x xs ih =>
      rw [List.flatMap_cons]
      exact sealsBraces_append (h x (by simp)) (ih fun y hy => h y (List.mem_cons_of_mem x hy))

/-! ### Sealed texts -/

/-- A text that keeps its opening braces from others, within it and behind it. -/
def IsSealed (t : Text) : Prop :=
  sealsBraces (t.map .plain) = true

instance (t : Text) : Decidable (IsSealed t) :=
  inferInstanceAs (Decidable (_ = true))

variable {s t : Text}

lemma isSealed_nil : IsSealed [] := rfl

lemma IsSealed.append (hs : IsSealed s) (ht : IsSealed t) : IsSealed (s ++ t) := by
  rw [IsSealed, List.map_append]
  exact sealsBraces_append hs ht

/-- A rear part of a sealed text is sealed. -/
lemma IsSealed.of_cons {c : Char} (h : IsSealed (c :: t)) : IsSealed t :=
  (Bool.and_eq_true_iff.mp h).2

/-- A text without opening braces is sealed. -/
lemma isSealed_of_notMem (h : '\x7b' ∉ t) : IsSealed t := by
  induction t with
  | nil => rfl
  | cons c t ih =>
      obtain ⟨hc, ht⟩ := List.ne_and_not_mem_of_not_mem_cons h
      exact Bool.and_eq_true_iff.mpr ⟨by simp [Ne.symm hc], ih ht⟩

lemma isSealed_flatMap {α : Type*} {text : α → Text} {xs : List α}
    (h : ∀ x ∈ xs, IsSealed (text x)) : IsSealed (xs.flatMap text) := by
  rw [IsSealed, List.map_flatMap]
  exact sealsBraces_flatMap h

/-- Sealed texts joined by a sealed one. -/
lemma IsSealed.joinWith (hs : IsSealed s) {ts : List Text} (hts : ∀ t ∈ ts, IsSealed t) :
    IsSealed (joinWith s ts) := by
  cases ts with
  | nil => exact isSealed_nil
  | cons t ts =>
      obtain ⟨ht, hts⟩ := List.forall_mem_cons.mp hts
      rw [joinWith_cons]
      exact ht.append (isSealed_flatMap fun u hu => hs.append (hts u hu))

/-- No placeholder opens in a sealed text. -/
lemma IsSealed.not_opening_infix (ht : IsSealed t) : ¬ opening <:+: t := by
  have hopening : opening = ['\x7b', '\x7b'] := rfl
  rw [hopening]
  induction t with
  | nil => simp
  | cons c t ih =>
      rw [List.infix_cons_iff, not_or]
      refine ⟨fun hprefix => ?_, ih ht.of_cons⟩
      obtain ⟨u, hu⟩ := hprefix
      obtain ⟨rfl, rfl⟩ := List.cons.inj hu
      exact absurd ht (by simp [IsSealed, sealsBraces, Piece.isOther])

/-- A sealed text holds no placeholder. -/
lemma IsSealed.placeholders_eq_nil (ht : IsSealed t) : placeholders t = [] := by
  have hpieces := pieces_separated (show Separated t [] from ht.not_opening_infix)
  rw [List.flatMap_nil, List.append_nil, List.flatMap_nil, List.append_nil] at hpieces
  rw [placeholders, hpieces, filterMap_name?_plain]

/-! ### Templates with sealed literals -/

/-- A slot that follows a literal does so when a character is put before it at which no
slot begins. -/
lemma Slot.CanFollow.cons {x : Slot} {lit u : Text} {c : Char} (hx : x.CanFollow lit)
    (hnone : placeholderAt? (c :: (lit ++ (x.text ++ u))) = none) : x.CanFollow (c :: lit) := by
  intro hmark gaps hgaps hsuffix
  rcases List.suffix_cons_iff.mp hsuffix with heq | hsuffix
  · -- the slashes would be the mark of a slot that begins here
    obtain ⟨rfl, rfl⟩ := List.cons.inj heq
    have htext : '/' :: '/' :: gaps ++ (x.text ++ u)
        = Slot.text ⟨'/' :: '/' :: gaps, x.name, Or.inr ⟨gaps, rfl, hgaps⟩, x.name_ne_nil,
          x.name_chars⟩ ++ u := by
      simp [Slot.text, hmark]
    have hfound := placeholderAt?_slot ⟨'/' :: '/' :: gaps, x.name, Or.inr ⟨gaps, rfl, hgaps⟩,
      x.name_ne_nil, x.name_chars⟩ u
    rw [← htext] at hfound
    exact absurd (hfound.symm.trans hnone) (by simp)
  · exact hx hmark gaps hgaps hsuffix

/-- **A template comes apart** into literals and slots, where its literals are sealed. -/
lemma exists_separated (t : Text) (ht : sealsBraces (pieces t) = true) :
    ∃ lit rest, Separated lit rest ∧ (t = lit ++ rest.flatMap fun y => y.1.text ++ y.2)
      ∧ IsSealed lit ∧ ∀ y ∈ rest, IsSealed y.2 := by
  induction t using pieces_cases with
  | hnil => exact ⟨[], [], by simp [Separated, opening], rfl, isSealed_nil, by simp⟩
  | hslot x t ih =>
      rw [pieces_slot] at ht
      obtain ⟨lit, rest, hseparated, rfl, hlit, hrest⟩ := ih ht
      have hfollow : x.CanFollow [] := fun _ gaps _ => by simp
      refine ⟨[], (x, lit) :: rest, ⟨by decide, hfollow, hseparated⟩, ?_, isSealed_nil,
        List.forall_mem_cons.mpr ⟨hlit, hrest⟩⟩
      rw [List.flatMap_cons, List.append_assoc, List.nil_append]
  | hplain c t hnone ih =>
      rw [pieces_plain hnone] at ht
      obtain ⟨lit, rest, hseparated, rfl, hlit, hrest⟩ := ih (Bool.and_eq_true_iff.mp ht).2
      have hlit' : IsSealed (c :: lit) := by
        have hopen := (Bool.and_eq_true_iff.mp ht).1
        rw [pieces_separated hseparated] at hopen
        refine Bool.and_eq_true_iff.mpr ⟨?_, hlit⟩
        -- what follows the character in its literal is what follows it in the template
        cases lit with
        | cons d lit => exact hopen
        | nil =>
            cases rest with
            | nil => exact hopen
            | cons y rest => simpa [Slot.piece, Piece.isOther] using hopen
      refine ⟨c :: lit, rest, ?_, rfl, hlit', hrest⟩
      cases rest with
      | nil => exact hlit'.not_opening_infix
      | cons y rest =>
          obtain ⟨-, hfollow, hnext⟩ := hseparated
          rw [List.flatMap_cons, List.append_assoc] at hnone
          exact ⟨hlit'.not_opening_infix, hfollow.cons hnone, hnext⟩

/-- Sealed values in the slots of a template with sealed literals. -/
lemma isSealed_filled {values : Text → Option Text} {lit : Text} {rest : List (Slot × Text)}
    (hlit : IsSealed lit) (hrest : ∀ y ∈ rest, IsSealed y.2)
    (hvalues : ∀ y ∈ rest, ∃ v, values y.1.name = some v ∧ IsSealed v) :
    IsSealed (lit ++ rest.flatMap fun y => y.1.filled values ++ y.2) := by
  refine hlit.append (isSealed_flatMap fun y hy => ?_)
  obtain ⟨v, hv, hsealed⟩ := hvalues y hy
  rw [Slot.filled, hv, Option.getD_some]
  exact hsealed.append (hrest y hy)

end Template

end ContractScaffold
