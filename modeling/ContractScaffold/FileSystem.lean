/-
What is asked of a file system, and what is built on it. The operations are those
of a class, so that the same program runs on the real file system and on a tree
of entries that can be reasoned about.

* `FileSystem`: reading and writing a file, making a directory, the kind of an
  entry, the entries of a directory.
* `readText`, `writeText`: files as texts in UTF-8.
* `makeDirectories`: a directory with all directories above it.
* `documentsIn`: the documents directly in a directory.
-/
import ContractScaffold.Path
import ContractScaffold.Text.Utf8

namespace ContractScaffold

open Text

/-- The kinds of the entries of a file system. -/
inductive Kind where
  | file
  | directory
  | link
  | special
  deriving DecidableEq, Repr

/-- The operations of a file system, each of which may be refused. Links on the
way to an entry are followed, and so are links at its end, except among the
entries of a directory. -/
class FileSystem (m : Type → Type) where
  /-- The content of a file. -/
  readBytes : Path → ExceptT Fault m (List UInt8)
  /-- Makes a file with the content, in place of the file that was there. -/
  writeBytes : Path → List UInt8 → ExceptT Fault m Unit
  /-- Makes a directory in one that exists. -/
  makeDirectory : Path → ExceptT Fault m Unit
  /-- The kind of an entry. -/
  kind : Path → ExceptT Fault m Kind
  /-- The names of the entries of a directory, with their kinds. -/
  entries : Path → ExceptT Fault m (List (Text × Kind))

namespace FileSystem

variable {m : Type → Type} [Monad m] [FileSystem m]

/-- The outcome of a program, a refusal included. -/
def outcome {α : Type} (program : ExceptT Fault m α) : ExceptT Fault m (Except Fault α) :=
  ExceptT.lift program.run

/-- Whether the path leads to an entry of the kind. -/
def isKind (wanted : Kind) (path : Path) : ExceptT Fault m Bool := do
  match ← outcome (kind path) with
  | .ok found => return found == wanted
  | .error _ => return false

/-- The text in a file. -/
def readText (path : Path) : ExceptT Fault m Text := do
  match ofUtf8? (← readBytes path) with
  | some t => return t
  | none => throw .notText

/-- Makes a file with the text. -/
def writeText (path : Path) (t : Text) : ExceptT Fault m Unit :=
  writeBytes path (utf8 t)

/-- Makes a directory; one that is there already will do. -/
def ensureDirectory (path : Path) : ExceptT Fault m Unit := do
  match ← outcome (makeDirectory path) with
  | .ok () => return ()
  | .error fault => if ← isKind .directory path then return () else throw fault

/-- Makes the first directory of a chain in which each lies in the next. The rest
of the chain is made only where the first cannot be made without it. -/
def makeChain : List Path → ExceptT Fault m Unit
  | [] => return ()
  | path :: above => do
    match ← outcome (makeDirectory path) with
    | .ok () => return ()
    | .error .notFound => do makeChain above; ensureDirectory path
    | .error fault => if ← isKind .directory path then return () else throw fault

/-- Makes a directory with all directories above it that are missing. -/
def makeDirectories (path : Path) : ExceptT Fault m Unit :=
  makeChain path.ancestors

/-- The extension of documents. -/
def documentExtension : Text := "md"

/-- The documents directly in a directory, in the order of their names: regular
files with the extension of documents. An entry that is no directory holds
none. -/
def documentsIn (dir : Path) : ExceptT Fault m (List Path) := do
  match ← kind dir with
  | .directory =>
    let found := (← entries dir).filter fun e => e.2 == .file && hasExtension documentExtension e.1
    let names := (found.map Prod.fst).mergeSort inOrder
    return names.map fun name => dir.join name
  | _ => return []

end FileSystem

end ContractScaffold
