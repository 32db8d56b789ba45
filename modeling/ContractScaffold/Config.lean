/-
The configuration, resolved from four layers: the command line, the environment,
a configuration file and the defaults, the first of which that has a value
counts.

* `Config`: the resolved configuration, and `Config.default`.
* `ConfigLayer`, `ConfigLayer.ofToml?`: a layer, and that of a file. Every key is optional,
  and other keys are ignored.
* `Overrides`: the layer of the command line.
* `Config.resolve`: the layers put together.
* `Config.load`: the configuration of a working directory.
-/
import ContractScaffold.Template.Source
import ContractScaffold.Toml.Reading

namespace ContractScaffold

open Text

/-- The resolved configuration. Without a template directory the bundled
templates are used; without a default template the name of a contract decides. -/
structure Config where
  templatesDir : Option Path
  outputDir : Path
  recordsDir : Path
  defaultTemplate : Option Text
  deriving DecidableEq, Repr

/-- The values of one layer. -/
structure ConfigLayer where
  templatesDir : Option Path
  outputDir : Option Path
  recordsDir : Option Path
  defaultTemplate : Option Text
  deriving DecidableEq, Repr

/-- The values that the command line gives; the path of a configuration file is
one of them. -/
structure Overrides where
  configPath : Option Path
  templatesDir : Option Path
  outputDir : Option Path
  recordsDir : Option Path
  deriving DecidableEq, Repr

/-- A layer that gives no value. -/
def ConfigLayer.empty : ConfigLayer :=
  ⟨none, none, none, none⟩

/-- A command line that gives no value. -/
def Overrides.empty : Overrides :=
  ⟨none, none, none, none⟩

/-- The layer of the command line, which names no template. -/
def Overrides.layer (o : Overrides) : ConfigLayer :=
  ⟨o.templatesDir, o.outputDir, o.recordsDir, none⟩

/-- The name of the configuration file of a working directory. -/
def configFileName : Text := "chainspec.toml"

/-- The environment: the value of a variable, if it has one. -/
abbrev Environment := Text → Option Text

/-- The variable for the directory of templates. -/
def templatesDirVariable : Text := "CHAINSPEC_TEMPLATES_DIR"

/-- The variable for the directory of contracts. -/
def outputDirVariable : Text := "CHAINSPEC_OUTPUT_DIR"

/-- The variable for the directory of records. -/
def recordsDirVariable : Text := "CHAINSPEC_RECORDS_DIR"

/-- The variable for the default template. -/
def defaultTemplateVariable : Text := "CHAINSPEC_DEFAULT_TEMPLATE"

/-- The variables that are looked at. -/
def configVariables : List Text :=
  [templatesDirVariable, outputDirVariable, recordsDirVariable, defaultTemplateVariable]

namespace ConfigLayer

/-- The text under a key, which may be missing but no other value. -/
def textAt? (ms : Members) (key : Text) : Option (Option Text) :=
  match ms.lookup key with
  | none => some none
  | some (.string t) => some (some t)
  | some _ => none

/-- The layer of a TOML document; none, if the document is malformed or a value
is no text. -/
def ofToml? (t : Text) : Option ConfigLayer := do
  let ms ← Toml.document? t
  return {
    templatesDir := ← textAt? ms "templates_dir"
    outputDir := ← textAt? ms "output_dir"
    recordsDir := ← textAt? ms "records_dir"
    defaultTemplate := ← textAt? ms "default_template" }

/-- The layer of the environment. A blank value counts as none; any other is kept
as it is. -/
def ofEnvironment (env : Environment) : ConfigLayer :=
  let value (name : Text) : Option Text := (env name).filter fun t => !isAllBlank t
  { templatesDir := value templatesDirVariable
    outputDir := value outputDirVariable
    recordsDir := value recordsDirVariable
    defaultTemplate := value defaultTemplateVariable }

end ConfigLayer

namespace Config

/-- The configuration that no layer changes. -/
def default : Config where
  templatesDir := none
  outputDir := "contracts/generated"
  recordsDir := "output"
  defaultTemplate := none

/-- The configuration with the values of a layer in place of its own. -/
def overlay (c : Config) (layer : ConfigLayer) : Config where
  templatesDir := layer.templatesDir <|> c.templatesDir
  outputDir := layer.outputDir.getD c.outputDir
  recordsDir := layer.recordsDir.getD c.recordsDir
  defaultTemplate := layer.defaultTemplate <|> c.defaultTemplate

/-- The configuration that the layers resolve to. -/
def resolve (file : ConfigLayer) (env : Environment) (overrides : Overrides) : Config :=
  ((default.overlay file).overlay (.ofEnvironment env)).overlay overrides.layer

/-- The configuration that a TOML document alone gives. -/
def ofToml (path : Path) (t : Text) : Except Failure Config :=
  match ConfigLayer.ofToml? t with
  | some file => .ok (default.overlay file)
  | none => .error (.malformedConfig path)

/-- The source of templates: the directory of templates, if there is one. -/
def templates (c : Config) : TemplateSource :=
  match c.templatesDir with
  | some dir => .directory dir
  | none => .shelf .bundled

variable {m : Type → Type} [Monad m] [FileSystem m]

/-- The layer of the configuration file at the path. -/
def readFile (path : Path) : ExceptT Failure m ConfigLayer := do
  let t ← (FileSystem.readText path).adapt (Failure.unreadableConfig path)
  match ConfigLayer.ofToml? t with
  | some file => return file
  | none => throw (.malformedConfig path)

/-- The layer of the file that is used: the one that the command line names, which
must be there, or else the one of the working directory, if it is a regular
file. -/
def fileLayer (root : Path) (overrides : Overrides) : ExceptT Failure m ConfigLayer := do
  match overrides.configPath with
  | some path => readFile path
  | none =>
    let path := root.join configFileName
    if ← atPath path (FileSystem.isKind .file path) then readFile path else return .empty

/-- The configuration of a working directory. -/
def load (root : Path) (overrides : Overrides) (env : Environment) : ExceptT Failure m Config := do
  return resolve (← fileLayer root overrides) env overrides

end Config

end ContractScaffold
