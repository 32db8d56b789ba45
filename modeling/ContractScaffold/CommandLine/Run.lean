/-
The commands: what each reads, writes and reports.

* `Trouble`, `Trouble.report`: what ends a command, or fails a document of a
  batch, with the causes in order.
* `parseCommand`, `generateCommand`, `batchCommand`, `templatesCommand`: the four
  commands.
* `run`: a command line from its arguments to its outcome.
-/
import ContractScaffold.CommandLine.Arguments
import ContractScaffold.Generation

namespace ContractScaffold

open Text

/-- What ends a command. -/
inductive Trouble where
  /-- A failure of the library. -/
  | failure (failure : Failure)
  /-- The document at the path could not be read. -/
  | reading (file : Path) (fault : Fault)
  /-- The contract of the document at the path could not be rendered. -/
  | rendering (file : Path) (failure : Failure)
  /-- The directory of documents could not be searched. -/
  | scanning (dir : Path) (fault : Fault)
  deriving DecidableEq, Repr

/-- The report on a trouble: what it is, and its causes after it. -/
def Trouble.report : Trouble → Text
  | failure f => f.report
  | reading file fault => "Failed to read spec " ++ file ++ ": " ++ fault.message
  | rendering file f => "Failed to render " ++ file ++ ": " ++ f.report
  | scanning dir fault =>
    "Failed to scan " ++ dir ++ ": " ++ Failure.scanMessage dir fault ++ ": " ++ fault.message

/-- What a command line leaves besides files: its exit code, what it writes out,
and the message that it ends with when it is in trouble. A log is no part of a
result, though it goes where the message goes: a batch may warn there of every
document that fails, and still ends without a message. -/
structure Result where
  exit : Nat
  stdout : Text
  /-- The message alone, without a log. -/
  stderr : Text
  deriving DecidableEq, Repr

/-- The result of a command that succeeds. -/
def Result.success (stdout : Text) : Result :=
  ⟨0, stdout, []⟩

/-- The result of a command that is in trouble after it has written `stdout`. -/
def Result.trouble (stdout : Text) (t : Trouble) : Result :=
  ⟨1, stdout, "Error: " ++ t.report ++ ['\n']⟩

variable {m : Type → Type} [Monad m] [FileSystem m]

/-- A program whose failures are troubles. -/
def orTrouble {α : Type} (program : ExceptT Failure m α) : ExceptT Trouble m α :=
  program.adapt Trouble.failure

/-- The result of a program that gives what a command writes. -/
def toResult (program : ExceptT Trouble m Text) : m Result := do
  match ← program.run with
  | .ok stdout => return .success stdout
  | .error t => return .trouble [] t

/-- Writes the record of a specification, if a path for it is given. -/
def recordAt (s : Spec) : Option Path → ExceptT Failure m Unit
  | some path => writeRecord s path
  | none => return ()

/-- The command that reads a document and reports or writes its record. -/
def parseCommand (file : Path) (output : Option Path) (format : Format) :
    ExceptT Trouble m Text := do
  let spec ← orTrouble (Spec.ofFile file)
  orTrouble (recordAt spec output)
  return spec.report format

/-- What is generated from a document: the template that is asked for stands
before the default one. -/
def generateFrom (config : Config) (file : Path) (template : Option Text) :
    ExceptT Trouble m Generated := do
  let markdown ← (FileSystem.readText file).adapt (Trouble.reading file)
  let requested := template <|> config.defaultTemplate
  orTrouble (generate config.templates.load markdown requested)

/-- The result of writing only the record, where the source itself is the
output. -/
def sourceResult (g : Generated) (record : Option Path) : m Result := do
  match ← (orTrouble (recordAt g.spec record)).run with
  | .ok () => return .success g.code
  | .error t => return .trouble g.code t

/-- Writes the contract and the record, and reports on them. -/
def writeGenerated (config : Config) (file : Path) (record : Option Path) (format : Format)
    (g : Generated) : ExceptT Trouble m Text := do
  let path ← orTrouble (writeContract g.code g.spec.contractName config.outputDir)
  orTrouble (recordAt g.spec record)
  let generation : Generation := {
    source := file
    contract := identifierOf g.spec.contractName
    template := g.template
    digest := g.digest
    contractPath := some path
    recordPath := record }
  return generation.report format

/-- The command that generates a contract from a document. -/
def generateCommand (config : Config) (file : Path) (template : Option Text)
    (record : Option Path) (toStdout : Bool) (format : Format) : m Result := do
  match ← (generateFrom config file template).run with
  | .error t => return .trouble [] t
  | .ok g =>
    if toStdout then sourceResult g record
    else toResult (writeGenerated config file record format g)

/-- Generates the contract and the record of one document of a batch. -/
def processDocument (config : Config) (file : Path) : ExceptT Trouble m Outcome := do
  let spec ← orTrouble (Spec.ofFile file)
  let template := selectTemplate spec.contractName config.defaultTemplate
  let code ← (render config.templates.load RuleSet.standard spec template).adapt
    (Trouble.rendering file)
  let path ← orTrouble (writeContract code spec.contractName config.outputDir)
  let record := recordPath config.recordsDir spec.contractName
  orTrouble (writeRecord spec record)
  return .generated (identifierOf spec.contractName) template path record

/-- What becomes of a document of a batch. -/
def batchEntry (config : Config) (file : Path) : m BatchEntry := do
  match ← (processDocument config file).run with
  | .ok outcome => return ⟨file, outcome⟩
  | .error t => return ⟨file, .failed t.report⟩

/-- What becomes of the documents of a batch, one after the other. -/
def batchEntries (config : Config) : List Path → m Batch
  | [] => return []
  | file :: files => do
    let entry ← batchEntry config file
    return entry :: (← batchEntries config files)

/-- The exit code of a batch: a failed document makes it one. -/
def Batch.exit (b : Batch) : Nat :=
  if b.any BatchEntry.isFailed then 1 else 0

/-- The command that generates a contract from every document in a directory. Its
report tells of the documents that fail, and it has no message for them. -/
def batchCommand (config : Config) (dir : Path) (format : Format) : m Result := do
  match ← (FileSystem.documentsIn dir : ExceptT Fault m (List Path)).run with
  | .error fault => return .trouble [] (.scanning dir fault)
  | .ok files =>
    let batch ← batchEntries config files
    return ⟨batch.exit, batch.report format, []⟩

/-- The command that lists the templates on offer. -/
def templatesCommand (config : Config) : ExceptT Trouble m Text := do
  let names ← orTrouble config.templates.names
  return templatesReport names (config.templatesDir.getD "bundled")

/-- The values that an invocation gives for the configuration. -/
def Invocation.overrides (i : Invocation) : Overrides :=
  match i.command with
  | .generate _ _ outDir _ _ _ => ⟨i.configPath, i.templatesDir, outDir, none⟩
  | .batch _ outDir recordsDir _ => ⟨i.configPath, i.templatesDir, outDir, recordsDir⟩
  | _ => ⟨i.configPath, i.templatesDir, none, none⟩

/-- The result of a command under a configuration. -/
def Command.run (config : Config) : Command → m Result
  | .parse file output format => toResult (parseCommand file output format)
  | .generate file template _ record toStdout format =>
    generateCommand config file template record toStdout format
  | .batch dir _ _ format => batchCommand config dir format
  | .templates => toResult (templatesCommand config)

/-- The result of an invocation in a working directory. -/
def Invocation.run (root : Path) (env : Environment) (i : Invocation) : m Result := do
  match ← (Config.load root i.overrides env : ExceptT Failure m Config).run with
  | .ok config => i.command.run config
  | .error f => return ⟨1, [], "Error loading configuration: " ++ f.message ++ ['\n']⟩

/-- The name and the version of the program. -/
def versionText : Text := "chainspec 0.1.0\n"

/-- How the program is used. -/
def usageText : Text :=
  reportLines [
    "Usage: chainspec [OPTIONS] <COMMAND>",
    [],
    "Commands:",
    "  parse <FILE> [-o PATH] [--format FORMAT]",
    "  generate <FILE> [-t NAME] [--out-dir DIR] [--record PATH] [--stdout] [--format FORMAT]",
    "  batch <DIR> [--out-dir DIR] [--records-dir DIR] [--format FORMAT]",
    "  templates",
    [],
    "Options:",
    "  -v, --verbose",
    "      --config PATH",
    "      --templates-dir DIR",
    "  -h, --help",
    "  -V, --version"]

/-- The result of a command line without an invocation. -/
def Stop.result : Stop → Result
  | help => .success usageText
  | version => .success versionText
  | usage => ⟨2, [], usageText⟩

/-- The result of a command line in a working directory. -/
def run (root : Path) (env : Environment) (arguments : List Text) : m Result :=
  match Arguments.read arguments with
  | .ok i => i.run root env
  | .error stop => return stop.result

end ContractScaffold
