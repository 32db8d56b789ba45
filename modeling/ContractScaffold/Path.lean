/-
Paths of a file system, as the texts they are written as. Nothing is normalized:
a path is shown the way it was put together.

* `Path.join`: a path below a directory.
* `Path.parts`: the names that a path leads through.
* `Path.parent?`, `Path.ancestors`: the directory that a path lies in, and the
  chain of directories up from a path.
* `stemAndExtension`: a file name without its extension, and the extension.
-/
import ContractScaffold.Failure

namespace ContractScaffold

namespace Path

/-- The path below the directory. An absolute path stays as it is. -/
def join (dir path : Path) : Path :=
  if path.head? = some '/' then path
  else if dir = [] ∨ dir.getLast? = some '/' then dir ++ path
  else dir ++ '/' :: path

/-- The names that a path leads through. -/
def parts (path : Path) : List Text :=
  (path.splitOn '/').filter fun name => !name.isEmpty

/-- A piece of a path that leads nowhere: nothing, or the directory itself. -/
def isIdle (name : Text) : Bool :=
  name.isEmpty || name == ['.']

/-- The pieces without the idle ones at the end. -/
def dropIdle (names : List Text) : List Text :=
  (names.reverse.dropWhile isIdle).reverse

/-- The directory that a path lies in: the path without its last name. A single
name lies in the empty path; the empty path and the root lie nowhere. -/
def parent? (path : Path) : Option Path :=
  match path.splitOn '/' with
  | [] => none
  | first :: rest =>
    match dropIdle rest with
    | [] => if first.isEmpty then none else some []
    | names =>
      match dropIdle names.dropLast with
      | [] => some (if first.isEmpty then ['/'] else first)
      | above => some (Text.joinWith ['/'] (first :: above))

/-- At most `count` paths: a path and the directories above it, up to the empty
path or the root. -/
def ancestorsFrom : Nat → Path → List Path
  | 0, _ => []
  | count + 1, path =>
    if path = [] then []
    else
      match parent? path with
      | some above => path :: ancestorsFrom count above
      | none => [path]

/-- A path and the directories above it, the path first. -/
def ancestors (path : Path) : List Path :=
  ancestorsFrom path.length path

end Path

/-- The stem and the extension of a file name: what stands before and after its
last dot. A name whose only dot is its first character has no extension. -/
def stemAndExtension (name : Text) : Text × Option Text :=
  let reversed := name.reverse
  let stem := ((reversed.dropWhile (· != '.')).drop 1).reverse
  if name = ['.', '.'] ∨ stem = [] then (name, none)
  else (stem, some (reversed.takeWhile (· != '.')).reverse)

/-- Whether a file name has the extension. -/
def hasExtension (extension name : Text) : Bool :=
  (stemAndExtension name).2 == some extension

end ContractScaffold
