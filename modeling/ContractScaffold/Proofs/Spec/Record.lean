/-
The record of a specification gives the specification back.

* `Json.fields?_object`: the fields of an object are found under their names.
* `Json.list?_array`: a list of values is read if each of them is.
* `Parameter.ofJson?_toJson`, …, `Spec.ofJson?_toJson`: every part of a specification is
  read from the value it is written as.
* `Spec.record_roundTrip`: a record is read as the specification it was written from, in
  both layouts, so that different specifications have different records.
-/
import ContractScaffold.Proofs.Json.RoundTrip
import ContractScaffold.Report
import ContractScaffold.Spec.Record

namespace ContractScaffold

namespace Json

/-! ### Objects and lists -/

/-- Names that the members in front do not have are found behind them. -/
lemma mapM_lookup_zip : ∀ (members : List (Text × Json)) (names : List Text) (values : List Json),
    names.length = values.length → names.Nodup → (∀ name ∈ names, members.lookup name = none) →
    (names.mapM fun name => (members ++ names.zip values).lookup name) = some values
  | _, [], [], _, _, _ => rfl
  | members, name :: names, value :: values, hlength, hnodup, hfree => by
      obtain ⟨hname, hnodup⟩ := List.nodup_cons.mp hnodup
      have hrest := mapM_lookup_zip (members ++ [(name, value)]) names values
        (by simpa using hlength) hnodup fun other hother => by
          have hne : other ≠ name := fun h => hname (h ▸ hother)
          rw [List.lookup_append, hfree other (List.mem_cons_of_mem _ hother)]
          simp [List.lookup, beq_false_of_ne hne]
      rw [List.append_assoc, List.singleton_append] at hrest
      rw [List.zip_cons_cons, List.mapM_cons, hrest, List.lookup_append,
        hfree name List.mem_cons_self, List.lookup_cons_self]
      rfl

/-- The fields of an object are found under their names. -/
lemma fields?_object {names : List Text} {values : List Json}
    (hlength : names.length = values.length) (hnodup : names.Nodup) :
    (object (names.zip values)).fields? names = some values :=
  mapM_lookup_zip [] names values hlength hnodup fun _ _ => rfl

/-- A list is read if each of its items is. -/
lemma list?_array {α : Type} {write : α → Json} {read : Json → Option α}
    (h : ∀ a, read (write a) = some a) (xs : List α) :
    (array (xs.map write)).list? read = some xs := by
  rw [list?, List.mapM_map, show read ∘ write = fun a => pure (id a) from funext h,
    List.mapM_pure, List.map_id]
  rfl

lemma list?_ofTexts (ts : List Text) : (ofTexts ts).list? text? = some ts :=
  list?_array (fun t => show text? (string t) = some t from rfl) ts

end Json

/-! ### The parts of a specification -/

lemma Parameter.ofJson?_toJson (p : Parameter) : ofJson? p.toJson = some p := by
  rw [ofJson?, toJson, Json.fields?_object rfl (by decide)]
  rfl

lemma ContractFunction.ofJson?_toJson (f : ContractFunction) : ofJson? f.toJson = some f := by
  rw [ofJson?, toJson, Json.fields?_object rfl (by decide)]
  simp only [Json.text?, Json.list?_ofTexts, Json.list?_array Parameter.ofJson?_toJson]
  rfl

lemma StateVariable.ofJson?_toJson (v : StateVariable) : ofJson? v.toJson = some v := by
  rw [ofJson?, toJson, Json.fields?_object rfl (by decide)]
  rfl

lemma Event.ofJson?_toJson (e : Event) : ofJson? e.toJson = some e := by
  rw [ofJson?, toJson, Json.fields?_object rfl (by decide)]
  rfl

namespace Spec

lemma ofJson?_toJson (s : Spec) : ofJson? s.toJson = some s := by
  rw [ofJson?, toJson, Json.fields?_object rfl (by decide)]
  simp only [Json.text?, Json.list?_ofTexts, Json.list?_array ContractFunction.ofJson?_toJson,
    Json.list?_array StateVariable.ofJson?_toJson, Json.list?_array Event.ofJson?_toJson]
  rfl

/-! ### Records -/

/-- A specification is read from its value, written in any layout. -/
lemma ofRecord?_print {layout : Layout} (hlayout : layout.IsGapped) (s : Spec) {g : Text}
    (hg : ∀ c ∈ g, Json.isGap c = true) :
    ofRecord? (s.toJson.print layout 0 ++ g) = some s := by
  rw [ofRecord?, Json.ofText?_print hlayout s.toJson 0 hg, Option.bind_some, ofJson?_toJson]

lemma ofRecord?_compact (s : Spec) : ofRecord? s.compact = some s := by
  rw [compact, ← List.append_nil (Json.print _ _ _)]
  exact ofRecord?_print Layout.isGapped_compact s (by simp)

lemma ofRecord?_indented (s : Spec) : ofRecord? s.indented = some s := by
  rw [indented, ← List.append_nil (Json.print _ _ _)]
  exact ofRecord?_print Layout.isGapped_indented s (by simp)

lemma ofRecord?_report (s : Spec) : ofRecord? (s.report .json) = some s :=
  ofRecord?_print Layout.isGapped_indented s (by simp [Json.isGap])

/-- **A record is read as the specification it was written from**: the record on one line,
the record with a line for every member and item, and the report that puts a line break
after it. So no two specifications have a record of one text. -/
theorem record_roundTrip (s s' : Spec) :
    (ofRecord? s.compact = some s ∧ ofRecord? s.indented = some s ∧
      ofRecord? (s.report .json) = some s) ∧
    (s.compact = s'.compact ↔ s = s') ∧ (s.indented = s'.indented ↔ s = s') ∧
      (s.report .json = s'.report .json ↔ s = s') := by
  have hinjective : ∀ write : Spec → Text, (∀ s, ofRecord? (write s) = some s) →
      (write s = write s' ↔ s = s') := fun write hread =>
    ⟨fun h => Option.some.inj ((hread s).symm.trans ((congrArg ofRecord? h).trans (hread s'))),
      congrArg write⟩
  exact ⟨⟨ofRecord?_compact s, ofRecord?_indented s, ofRecord?_report s⟩,
    hinjective compact ofRecord?_compact, hinjective indented ofRecord?_indented,
    hinjective (report · .json) ofRecord?_report⟩

end Spec

end ContractScaffold
