/-
Reports on what a command did, for people and for programs. Members of a report
stand in the order of their keys.

* `Format`, `Format.ofText?`: the two formats, and their names in any case.
* `Spec.report`, `Generation.report`, `Batch.report`, `templatesReport`: the
  reports of the commands.
-/
import ContractScaffold.Failure
import ContractScaffold.Spec.Record
import ContractScaffold.Text.Lower

namespace ContractScaffold

open Text

/-- The formats of reports. -/
inductive Format where
  | human
  | json
  deriving DecidableEq, Repr

namespace Format

/-- The format of that name, in any letter case. -/
def ofText? (t : Text) : Option Format :=
  if lower t = "human" then some human else if lower t = "json" then some json else none

/-- The complaint about a name that no format has. -/
def complaint (t : Text) : Text :=
  "Unknown format: " ++ t ++ ". Expected: human, json"

end Format

/-- The texts with a line feed after each. -/
def reportLines (ls : List Text) : Text :=
  ls.flatMap fun l => l ++ ['\n']

/-- A value as a report. -/
def Json.report (j : Json) : Text :=
  j.print .indented 0 ++ ['\n']

/-- The report on a specification. -/
def Spec.report (s : Spec) : Format → Text
  | .json => s.indented ++ ['\n']
  | .human =>
    let functionLine (f : ContractFunction) : Text :=
      "    - " ++ f.name ++ "(" ++ f.parameterList ++ ")"
    reportLines [
      "Contract: " ++ s.contractName,
      "  Functions: " ++ decimal s.functions.length] ++
    reportLines (s.functions.map functionLine) ++
    reportLines [
      "  State Variables: " ++ decimal s.stateVariables.length,
      "  Events: " ++ decimal s.events.length,
      "  Security Requirements: " ++ decimal s.securityRequirements.length,
      "  State Invariants: " ++ decimal s.stateInvariants.length]

/-- What a generation did: the document, the contract and its template, the
digest of the source, and the paths that were written. -/
structure Generation where
  source : Path
  contract : Text
  template : Text
  digest : Text
  contractPath : Option Path
  recordPath : Option Path

/-- A member with a text. -/
def member (key t : Text) : Text × Json :=
  (key, .string t)

/-- A member for a text that may be missing. -/
def optionalMember (key : Text) (t : Option Text) : List (Text × Json) :=
  t.toList.map (member key)

/-- A line for a text that may be missing. -/
def optionalLine (label : Text) (t : Option Text) : List Text :=
  t.toList.map (label ++ ·)

/-- The members of the report on a generation. -/
def Generation.members (g : Generation) : List (Text × Json) :=
  [member "contract" g.contract, member "digest" g.digest] ++
    optionalMember "recordPath" g.recordPath ++ optionalMember "savedPath" g.contractPath ++
    [member "source" g.source, member "templateUsed" g.template]

/-- The report on a generation. -/
def Generation.report (g : Generation) : Format → Text
  | .json => (Json.object g.members).report
  | .human =>
    reportLines [g.source ++ " -> " ++ g.contract ++ " (" ++ g.template ++ ")"] ++
    reportLines (optionalLine "  Contract: " g.contractPath) ++
    reportLines (optionalLine "  Record: " g.recordPath) ++
    reportLines ["  SHA-256: " ++ g.digest]

/-- What became of a document of a batch. -/
inductive Outcome where
  | generated (contract template : Text) (contractPath recordPath : Path)
  | failed (reason : Text)
  deriving DecidableEq, Repr

/-- A document of a batch and what became of it. -/
structure BatchEntry where
  file : Path
  outcome : Outcome
  deriving DecidableEq, Repr

/-- Whether the document failed. -/
def BatchEntry.isFailed (e : BatchEntry) : Bool :=
  match e.outcome with
  | .failed _ => true
  | .generated .. => false

/-- The documents of a batch in order. -/
abbrev Batch := List BatchEntry

/-- The value for a document of a batch. -/
def BatchEntry.toJson (e : BatchEntry) : Json :=
  match e.outcome with
  | .generated contract template contractPath recordPath =>
    .object [member "contract" contract, member "file" e.file, member "recordPath" recordPath,
      member "savedPath" contractPath, member "status" "generated",
      member "templateUsed" template]
  | .failed reason =>
    .object [member "error" reason, member "file" e.file, member "status" "failed"]

/-- The lines for a document of a batch. -/
def BatchEntry.lines (e : BatchEntry) : List Text :=
  match e.outcome with
  | .generated contract template contractPath recordPath =>
    [e.file, "  ✅ " ++ contract ++ " (" ++ template ++ ")", "    Contract: " ++ contractPath,
      "    Record: " ++ recordPath]
  | .failed reason => [e.file, "  ❌ FAILED", "    Reason: " ++ reason]

namespace Batch

/-- How many documents failed. -/
def failed (b : Batch) : Nat :=
  b.countP BatchEntry.isFailed

/-- How many documents did not fail. -/
def generated (b : Batch) : Nat :=
  b.length - b.failed

/-- The counts of a batch as a value. -/
def summary (b : Batch) : Json :=
  .object [("failed", .number b.failed), ("generated", .number b.generated),
    ("total", .number b.length)]

/-- The report on a batch as a value. -/
def toJson (b : Batch) : Json :=
  .object [("results", .array (b.map BatchEntry.toJson)), ("summary", b.summary)]

/-- The last line of the report on a batch. -/
def verdict (b : Batch) : Text :=
  let word : Text := if 0 < b.failed then "FAILED" else "ok"
  "batch result: " ++ word ++ ". " ++ decimal b.generated ++ " generated; " ++ decimal b.failed ++
    " failed"

/-- The report on a batch. -/
def report (b : Batch) : Format → Text
  | .json => b.toJson.report
  | .human => reportLines (b.flatMap BatchEntry.lines) ++ reportLines [[], b.verdict]

end Batch

/-- The report on the templates on offer. -/
def templatesReport (names : List Text) (source : Text) : Text :=
  reportLines (("Templates (" ++ source ++ "):") :: names.map fun name => "  " ++ name)

end ContractScaffold
