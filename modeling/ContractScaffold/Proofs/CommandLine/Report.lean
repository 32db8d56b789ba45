/-
Reports, read again. Of a generation, a program and a person read the same names. Of a batch, what a
program reads from one report, what a person reads in the last line of the other, and the exit code
say the same.

* `Json.IsObject`: an object with given members, in whatever order they were written.
* `Generation.IsReportedBy`, `Generation.isReportedBy_report`: the reports on a generation.
* `BatchEntry.IsReportedBy`: the object that a document of a batch is reported by.
* `Batch.generated_add_failed`: every document was generated or failed.
* `Json.ofText?_report`: a report for programs, read.
* `Batch.getLast?_lines_report`, `Batch.words_verdict`: the last line of the report for people.
* `BatchEntry.IsReportedIn`, `Batch.isReportedIn_report`: a document in a report on its batch.
* `batch_reports_agree`: the reports and the exit code of a batch, and of the command.
-/
import ContractScaffold.Proofs.CommandLine.Frame
import ContractScaffold.Proofs.Json.RoundTrip
import ContractScaffold.Proofs.Text.Lines

namespace ContractScaffold

open Text
open scoped List

/-! ### Lines and objects of a report -/

/-- An object that has these members and no others, each of them once. -/
def Json.IsObject (j : Json) (members : List (Text × Json)) : Prop :=
  ∃ written, j = object written ∧ (written.map Prod.fst).Nodup ∧ ∀ m, m ∈ written ↔ m ∈ members

lemma reportLines_append (ls ms : List Text) :
    reportLines (ls ++ ms) = reportLines ls ++ reportLines ms :=
  List.flatMap_append

/-- A report for programs is read as the value that it was written from. -/
lemma Json.ofText?_report (j : Json) : Json.ofText? j.report = some j :=
  Json.ofText?_print Layout.isGapped_indented j 0 (by simp [Json.isGap])

/-! ### Reports on a generation -/

namespace Generation

/-- A report on a generation. A program reads it as an object with the names, the digest and those
paths that were written; for a person it begins with a line for the document, the contract and its
template. -/
inductive IsReportedBy (g : Generation) : Format → Text → Prop
  | json {report : Text} {value : Json} (hread : Json.ofText? report = some value)
      (hvalue : value.IsObject ([member "source" g.source, member "contract" g.contract,
        member "templateUsed" g.template, member "digest" g.digest] ++
        optionalMember "savedPath" g.contractPath ++ optionalMember "recordPath" g.recordPath)) :
      IsReportedBy g .json report
  | human {rest : Text} :
      IsReportedBy g .human
        (g.source ++ " -> " ++ g.contract ++ " (" ++ g.template ++ ")\n" ++ rest)

lemma map_fst_optionalMember_sublist (key : Text) (t : Option Text) :
    (optionalMember key t).map Prod.fst <+ [key] := by
  cases t with
  | none => exact List.nil_sublist _
  | some t => exact List.Sublist.refl _

/-- The keys of an object on a generation, of which those of paths can be missing. -/
lemma nodup_map_fst_members (g : Generation) : (g.members.map Prod.fst).Nodup := by
  have hkeys : (["contract", "digest"] ++ ["recordPath"] ++ ["savedPath"] ++
      ["source", "templateUsed"] : List Text).Nodup := by decide
  refine hkeys.sublist ?_
  rw [members, List.map_append, List.map_append, List.map_append]
  exact (((List.Sublist.refl _).append (map_fst_optionalMember_sublist _ _)).append
    (map_fst_optionalMember_sublist _ _)).append (List.Sublist.refl _)

lemma isObject_members (g : Generation) : (Json.object g.members).IsObject
    ([member "source" g.source, member "contract" g.contract, member "templateUsed" g.template,
      member "digest" g.digest] ++ optionalMember "savedPath" g.contractPath ++
      optionalMember "recordPath" g.recordPath) := by
  refine ⟨_, rfl, g.nodup_map_fst_members, fun m => ?_⟩
  simp only [members, List.mem_append, List.mem_cons, List.not_mem_nil, or_false]
  exact Iff.of_eq (by ac_rfl)

/-- The report for people begins with the line for the document, the contract and its template. -/
lemma exists_report_human (g : Generation) : ∃ rest, g.report .human =
    g.source ++ " -> " ++ g.contract ++ " (" ++ g.template ++ ")\n" ++ rest := by
  have hline : ∀ a b c rest : Text, reportLines [a ++ " -> " ++ b ++ " (" ++ c ++ ")"] ++ rest =
      a ++ " -> " ++ b ++ " (" ++ c ++ ")\n" ++ rest := by
    intros
    simp [reportLines]
  refine ⟨reportLines (optionalLine "  Contract: " g.contractPath) ++
    (reportLines (optionalLine "  Record: " g.recordPath) ++
      reportLines ["  SHA-256: " ++ g.digest]), ?_⟩
  rw [← hline, ← List.append_assoc, ← List.append_assoc]
  rfl

/-- **A report on a generation is read as what it reports on.** -/
lemma isReportedBy_report (g : Generation) (format : Format) :
    g.IsReportedBy format (g.report format) := by
  cases format with
  | json => exact .json (Json.ofText?_report _) g.isObject_members
  | human =>
      obtain ⟨rest, hreport⟩ := g.exists_report_human
      exact hreport ▸ .human

end Generation

/-! ### Reports on a batch -/

/-- The object that reports on a document of a batch. -/
inductive BatchEntry.IsReportedBy : BatchEntry → Json → Prop
  | generated {file contract template contractPath recordPath : Text} {j : Json}
      (h : j.IsObject [member "file" file, member "status" "generated", member "contract" contract,
        member "templateUsed" template, member "savedPath" contractPath,
        member "recordPath" recordPath]) :
      IsReportedBy ⟨file, .generated contract template contractPath recordPath⟩ j
  | failed {file reason : Text} {j : Json}
      (h : j.IsObject [member "file" file, member "status" "failed", member "error" reason]) :
      IsReportedBy ⟨file, .failed reason⟩ j

/-- A document in a report on its batch. A program reads an object for it among the results; for a
person there are a line for the document and then lines for the contract and its template, or for
the reason of the failure. -/
inductive BatchEntry.IsReportedIn : BatchEntry → Format → Text → Prop
  | json {e : BatchEntry} {report : Text} {value summary result : Json} {results : List Json}
      (hread : Json.ofText? report = some value)
      (hvalue : value.IsObject [("results", .array results), ("summary", summary)])
      (hmem : result ∈ results) (hresult : e.IsReportedBy result) : IsReportedIn e .json report
  | generated {file contract template contractPath recordPath front rear : Text} :
      IsReportedIn ⟨file, .generated contract template contractPath recordPath⟩ .human
        (front ++ (file ++ "\n  ✅ " ++ contract ++ " (" ++ template ++ ")\n") ++ rear)
  | failed {file reason front rear : Text} :
      IsReportedIn ⟨file, .failed reason⟩ .human
        (front ++ (file ++ "\n  ❌ FAILED\n    Reason: " ++ reason ++ "\n") ++ rear)

lemma BatchEntry.isReportedBy_toJson (e : BatchEntry) : e.IsReportedBy e.toJson := by
  obtain ⟨file, outcome⟩ := e
  cases outcome with
  | generated contract template contractPath recordPath =>
      have hkeys : (["contract", "file", "recordPath", "savedPath", "status", "templateUsed"] :
          List Text).Nodup := by decide
      refine .generated ⟨_, rfl, hkeys, fun m => ?_⟩
      simp only [List.mem_cons, List.not_mem_nil, or_false]
      exact Iff.of_eq (by ac_rfl)
  | failed reason =>
      have hkeys : (["error", "file", "status"] : List Text).Nodup := by decide
      refine .failed ⟨_, rfl, hkeys, fun m => ?_⟩
      simp only [List.mem_cons, List.not_mem_nil, or_false]
      exact Iff.of_eq (by ac_rfl)

namespace Batch

/-! ### Counts -/

/-- Every document was generated or failed. -/
lemma generated_add_failed (b : Batch) : b.generated + b.failed = b.length :=
  Nat.sub_add_cancel List.countP_le_length

lemma generated_eq (b : Batch) : b.generated = b.countP fun e => !e.isFailed := by
  have hlength := b.length_eq_countP_add_countP BatchEntry.isFailed
  have hnot : b.countP (fun e => !e.isFailed) = b.countP fun e => ¬ e.isFailed = true :=
    List.countP_congr fun e _ => by simp
  rw [generated, failed, hnot]
  omega

/-- A batch ends with one where a document failed, and else with zero. -/
lemma exit_eq (b : Batch) : b.exit = if 0 < b.failed then 1 else 0 := by
  simp only [exit, failed, List.countP_pos_iff, List.any_eq_true]

/-! ### The report for programs -/

lemma isObject_toJson (b : Batch) : b.toJson.IsObject
    [("results", .array (b.map BatchEntry.toJson)), ("summary", b.summary)] := by
  have hkeys : (["results", "summary"] : List Text).Nodup := by decide
  exact ⟨_, rfl, hkeys, fun _ => Iff.rfl⟩

lemma isObject_summary (b : Batch) : b.summary.IsObject [("total", .number b.length),
    ("generated", .number b.generated), ("failed", .number b.failed)] := by
  have hkeys : (["failed", "generated", "total"] : List Text).Nodup := by decide
  refine ⟨_, rfl, hkeys, fun m => ?_⟩
  simp only [List.mem_cons, List.not_mem_nil, or_false]
  exact Iff.of_eq (by ac_rfl)

/-! ### The report for people -/

/-- The word of the last line that says whether a document failed. -/
def verdictWord (b : Batch) : Text :=
  if 0 < b.failed then "FAILED." else "ok."

/-- The words of the last line of the report for people. -/
def verdictWords (b : Batch) : List Text :=
  ["batch", "result:", b.verdictWord, decimal b.generated, "generated;", decimal b.failed, "failed"]

lemma verdict_eq (b : Batch) : b.verdict = joinWith " " b.verdictWords := by
  unfold verdict verdictWords verdictWord
  split_ifs <;> simp [joinWith]

lemma isWord_decimal (n : ℕ) : IsWord (decimal n) where
  ne_nil := decimal_ne_nil n
  not_blank c hc := by
    refine isBlank_of_isWordChar ?_
    simp [isWordChar, Char.isAlphanum, isDigit_of_mem_decimal c hc]

lemma isWord_of_mem_verdictWords (b : Batch) : ∀ w ∈ b.verdictWords, IsWord w := by
  have hfixed : ∀ {w}, w ∈ words "batch result: ok. FAILED. generated; failed" → IsWord w :=
    isWord_of_mem_words
  have hword : IsWord b.verdictWord := by
    rw [verdictWord]
    split_ifs <;> exact hfixed (by decide)
  simp only [verdictWords, List.forall_mem_cons, List.not_mem_nil, false_implies, implies_true,
    and_true]
  exact ⟨hfixed (by decide), hfixed (by decide), hword, isWord_decimal _, hfixed (by decide),
    isWord_decimal _, hfixed (by decide)⟩

/-- The words of the last line are read from it. -/
lemma words_verdict (b : Batch) : words b.verdict = b.verdictWords := by
  rw [verdict_eq, words_joinWith b.isWord_of_mem_verdictWords]

/-- The last line says that a document failed exactly where one did. -/
lemma failed_infix_verdict_iff (b : Batch) : ("FAILED" : Text) <:+: b.verdict ↔ 0 < b.failed := by
  rw [verdict_eq]
  constructor
  · intro h
    by_contra hnone
    have hcapital : 'F' ∈ joinWith " " b.verdictWords := h.subset (by decide)
    have hdigits : ∀ n, 'F' ∉ decimal n := fun n hmem =>
      absurd (isDigit_of_mem_decimal _ hmem) (by decide)
    refine notMem_joinWith (by decide) ?_ hcapital
    simp only [verdictWords, verdictWord, if_neg hnone, List.forall_mem_cons, List.not_mem_nil,
      false_implies, implies_true, and_true]
    exact ⟨by decide, by decide, by decide, hdigits _, by decide, hdigits _, by decide⟩
  · intro hfailed
    have hword : b.verdictWord ∈ b.verdictWords :=
      List.mem_cons_of_mem _ (List.mem_cons_of_mem _ List.mem_cons_self)
    rw [verdictWord, if_pos hfailed] at hword
    exact List.IsInfix.trans ⟨[], ['.'], rfl⟩ (infix_joinWith hword)

/-- The report for people ends in a line of its own for the counts, whatever the documents and the
reasons are. -/
lemma getLast?_lines_report (b : Batch) :
    (Text.lines (b.report .human)).getLast? = some b.verdict := by
  have htidy : Tidy b.verdict := by
    rw [verdict_eq]
    exact joinWith_words_tidy b.isWord_of_mem_verdictWords
  have hne : b.verdict ≠ [] := by
    intro hnil
    have hwords : words b.verdict = [] := by rw [hnil]; rfl
    rw [words_verdict] at hwords
    exact List.cons_ne_nil _ _ hwords
  have hreport : b.report .human =
      reportLines (b.flatMap BatchEntry.lines) ++ '\n' :: (b.verdict ++ '\n' :: []) := by
    simp [report, reportLines]
  have hlast : Text.lines (b.verdict ++ '\n' :: []) = [b.verdict] := by
    rw [Text.lines_append_break, List.splitOn_eq_singleton htidy.line, List.map_singleton,
      dropReturn_of_isLine (isLine_of_tidy htidy hne)]
    rfl
  rw [hreport, Text.lines_append_break, hlast, List.getLast?_concat]

/-! ### A document in the reports -/

lemma exists_reportLines_generated (file contract template : Text)
    (contractPath recordPath : Path) : ∃ more,
      reportLines (BatchEntry.lines ⟨file, .generated contract template contractPath recordPath⟩) =
        file ++ "\n  ✅ " ++ contract ++ " (" ++ template ++ ")\n" ++ more := by
  have hlines : ∀ a b c more : Text,
      reportLines [a, "  ✅ " ++ b ++ " (" ++ c ++ ")"] ++ more =
        a ++ "\n  ✅ " ++ b ++ " (" ++ c ++ ")\n" ++ more := by
    intros
    simp [reportLines]
  refine ⟨_, Eq.trans ?_ (hlines _ _ _
    (reportLines ["    Contract: " ++ contractPath, "    Record: " ++ recordPath]))⟩
  exact reportLines_append [_, _] _

lemma reportLines_failed (file reason : Text) :
    reportLines (BatchEntry.lines ⟨file, .failed reason⟩) =
      file ++ "\n  ❌ FAILED\n    Reason: " ++ reason ++ "\n" := by
  have hlines : ∀ a b : Text, reportLines [a, "  ❌ FAILED", "    Reason: " ++ b] =
      a ++ "\n  ❌ FAILED\n    Reason: " ++ b ++ "\n" := by
    intros
    simp [reportLines]
  exact hlines _ _

/-- The report for people holds the lines for every document. -/
lemma exists_report_human (front rear : Batch) (e : BatchEntry) :
    ∃ before behind, Batch.report (front ++ e :: rear) .human =
      before ++ reportLines e.lines ++ behind :=
  ⟨reportLines (front.flatMap BatchEntry.lines), reportLines (rear.flatMap BatchEntry.lines) ++
    reportLines [[], verdict (front ++ e :: rear)], by simp [report, reportLines]⟩

/-- Every document of a batch is in the reports on it. -/
lemma isReportedIn_report {b : Batch} {e : BatchEntry} (he : e ∈ b) (format : Format) :
    e.IsReportedIn format (b.report format) := by
  cases format with
  | json =>
      exact .json (Json.ofText?_report _) b.isObject_toJson (List.mem_map_of_mem he)
        e.isReportedBy_toJson
  | human =>
      obtain ⟨front, rear, rfl⟩ := List.append_of_mem he
      obtain ⟨before, behind, hreport⟩ := exists_report_human front rear e
      obtain ⟨file, outcome⟩ := e
      cases outcome with
      | generated contract template contractPath recordPath =>
          obtain ⟨more, hlines⟩ :=
            exists_reportLines_generated file contract template contractPath recordPath
          rw [hreport, hlines, ← List.append_assoc, List.append_assoc]
          exact .generated
      | failed reason =>
          rw [hreport, reportLines_failed]
          exact .failed

end Batch

/-! ### The command -/

/-- A batch on a directory that cannot be searched ends in that trouble. Else it gives an entry for
every document that was found, reports on them, and ends with the exit code of that report. -/
lemma batchCommand_outcome (t : Tree) (config : Config) (dir : Path) (format : Format) :
    (∃ fault, t.documentsIn dir = .error fault ∧
        (t.run (batchCommand config dir format)).1 = .trouble [] (.scanning dir fault)) ∨
      ∃ ran : Batch, t.documentsIn dir = .ok (ran.map BatchEntry.file) ∧
        (t.run (batchCommand config dir format)).1 =
          ⟨if 0 < ran.failed then 1 else 0, ran.report format, []⟩ := by
  rcases hfiles : t.documentsIn dir with fault | files
  · exact Or.inl ⟨fault, rfl, by rw [batchCommand_run_of_error hfiles]⟩
  · refine Or.inr ⟨(t.run (batchEntries config files)).1, ?_, ?_⟩
    · rw [map_file_batchEntries]
    · rw [batchCommand_run hfiles, Batch.exit_eq]

/-- **The reports on a batch agree with what became of its documents and with each other.** Every
document was generated or failed. The report for programs is read as an object with a result for
every document, in order, and with the two counts and their sum; the last line of the report for
people gives the same counts, and says that documents failed exactly where some did, which is when
the exit code is one. The command reports so on the documents of a directory, unless it cannot
search the directory, and has no message for those that failed; a log is no part of its result. -/
theorem batch_reports_agree (b : Batch) (t : Tree) (config : Config) (dir : Path)
    (format : Format) :
    let failed := b.countP BatchEntry.isFailed
    let generated := b.countP fun e => !e.isFailed
    generated + failed = b.length ∧
      (∃ value results summary, Json.ofText? (b.report .json) = some value ∧
        value.IsObject [("results", .array results), ("summary", summary)] ∧
        List.Forall₂ BatchEntry.IsReportedBy b results ∧
        summary.IsObject [("total", .number b.length), ("generated", .number generated),
          ("failed", .number failed)]) ∧
      (∃ line word g f : Text, (lines (b.report .human)).getLast? = some line ∧
        words line = (["batch", "result:", word, g, "generated;", f, "failed"] : List Text) ∧
        ofDigits 10 g = generated ∧ ofDigits 10 f = failed ∧
        (("FAILED" : Text) <:+: line ↔ 0 < failed)) ∧
      b.exit = (if 0 < failed then 1 else 0) ∧
      ((∃ fault, t.documentsIn dir = .error fault ∧
          (t.run (batchCommand config dir format)).1 = .trouble [] (.scanning dir fault)) ∨
        ∃ ran : Batch, t.documentsIn dir = .ok (ran.map BatchEntry.file) ∧
          (t.run (batchCommand config dir format)).1 =
            ⟨if 0 < ran.failed then 1 else 0, ran.report format, []⟩) := by
  intro failed generated
  have hgenerated : b.generated = generated := b.generated_eq
  refine ⟨hgenerated ▸ b.generated_add_failed, ?_, ?_, b.exit_eq,
    batchCommand_outcome t config dir format⟩
  · refine ⟨b.toJson, b.map BatchEntry.toJson, b.summary, b.toJson.ofText?_report,
      b.isObject_toJson, ?_,
      hgenerated ▸ b.isObject_summary⟩
    rw [List.forall₂_map_right_iff, List.forall₂_same]
    exact fun e _ => e.isReportedBy_toJson
  · exact ⟨b.verdict, b.verdictWord, decimal b.generated, decimal b.failed,
      b.getLast?_lines_report, b.words_verdict, (ofDigits_decimal _).trans hgenerated,
      ofDigits_decimal _, b.failed_infix_verdict_iff⟩

/-- The last line of a report on one document that failed. -/
example : (lines (Batch.report [⟨"a.md", .failed "no name"⟩] .human)).getLast? =
    some "batch result: FAILED. 0 generated; 1 failed" := by
  decide

end ContractScaffold
