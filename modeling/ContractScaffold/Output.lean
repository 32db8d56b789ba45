/-
Documents read from a file system, and contracts and records written to it.

* `Spec.ofFile`, `Spec.ofDirectory`: the specifications of a document, and of all
  documents directly in a directory.
* `writeContract`: a contract source under its identifier in a directory, which
  is made where it is missing.
* `generateInto`: the contract source of a specification, rendered and written.
* `writeRecord`: the record of a specification at a path.
-/
import ContractScaffold.FileSystem
import ContractScaffold.Generation
import ContractScaffold.Identifier
import ContractScaffold.Spec.Reading
import ContractScaffold.Spec.Record

namespace ContractScaffold

open Text

variable {m : Type → Type} [Monad m] [FileSystem m]

/-- A program whose refusals are failures at the path. -/
def atPath {α : Type} (path : Path) (program : ExceptT Fault m α) : ExceptT Failure m α :=
  program.adapt (Failure.io path)

/-- The specification that the document at the path gives. -/
def Spec.ofFile (path : Path) : ExceptT Failure m Spec := do
  return Spec.ofText (← atPath path (FileSystem.readText path))

/-- The documents at the paths with the specifications that they give. -/
def Spec.ofFiles : List Path → ExceptT Failure m (List (Path × Spec))
  | [] => return []
  | path :: paths => do
    let spec ← Spec.ofFile path
    return (path, spec) :: (← Spec.ofFiles paths)

/-- The documents directly in a directory with the specifications that they give,
in the order of their names. -/
def Spec.ofDirectory (dir : Path) : ExceptT Failure m (List (Path × Spec)) := do
  Spec.ofFiles (← (FileSystem.documentsIn dir).adapt (Failure.scan dir))

/-- The extension of contract sources and of templates. -/
def sourceExtension : Text := "sol"

/-- The path of a contract source in a directory. -/
def contractPath (dir : Path) (name : Text) : Path :=
  dir.join (identifierOf name ++ '.' :: sourceExtension)

/-- The path of a record in a directory. -/
def recordPath (dir : Path) (name : Text) : Path :=
  dir.join (identifierOf name ++ ".json")

/-- Writes a contract source to a directory, under the identifier of its name.
The path is returned. -/
def writeContract (code name : Text) (dir : Path) : ExceptT Failure m Path := do
  atPath dir (FileSystem.makeDirectories dir)
  let path := contractPath dir name
  atPath path (FileSystem.writeText path code)
  return path

/-- Renders the contract of a specification, by the standard rules, and writes it to a
directory. -/
def generateInto (load : Text → ExceptT Failure m Text) (s : Spec) (template : Text)
    (dir : Path) : ExceptT Failure m Path := do
  let code ← render load RuleSet.standard s template
  writeContract code s.contractName dir

/-- Writes the record of a specification to a path. -/
def writeRecord (s : Spec) (path : Path) : ExceptT Failure m Unit := do
  match path.parent? with
  | some above => atPath above (FileSystem.makeDirectories above)
  | none => pure ()
  atPath path (FileSystem.writeText path s.indented)

end ContractScaffold
