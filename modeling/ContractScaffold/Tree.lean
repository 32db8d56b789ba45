/-
Trees of entries: a file system as a value. A tree lists its entries below the
working directory under their places, and every operation is a function on it.

* `Entry`, `Tree`: the entries of a tree; the working directory is always there.
* `Tree.put`, `Tree.entry?`: the two operations that all others are made of.
* `Tree.outside`: where paths lead that leave the working directory.
* `Tree.resolve`: the place that a path leads to, links followed.
* `Tree.readBytes`, `Tree.writeBytes`, `Tree.makeDirectory`, `Tree.kind`,
  `Tree.entries`: the operations of a file system, and its instance for programs
  that carry a tree along.
-/
import ContractScaffold.FileSystem

namespace ContractScaffold

/-- A place in a tree: the names from the working directory to an entry. -/
abbrev Place := List Text

/-- An entry of a tree. -/
inductive Entry where
  | file (content : List UInt8)
  | directory
  | link (target : Path)
  deriving DecidableEq, Repr

/-- The kind of an entry. -/
def Entry.kind : Entry → Kind
  | file _ => .file
  | directory => .directory
  | link _ => .link

/-- The entries of a file system below the working directory. -/
abbrev Tree := List (Place × Entry)

namespace Tree

/-- The place of everything outside the working directory, of which a tree holds
nothing. -/
def outside : Place := [['.', '.']]

/-- The place of the directory above. -/
def placeAbove (place : Place) : Place :=
  if place = [] ∨ place = outside then outside else place.dropLast

/-- The entry at a place. -/
def entry? (t : Tree) (place : Place) : Option Entry :=
  if place = [] ∨ place = outside then some .directory else t.lookup place

/-- The tree with the entry at the place, instead of the one that was there. -/
def put (place : Place) (entry : Entry) : Tree → Tree
  | [] => [(place, entry)]
  | item :: rest =>
    if item.1 = place then (place, entry) :: rest else item :: put place entry rest

/-- How many links a path may lead through. -/
def linkLimit : Nat := 40

/-- How many bytes a name may have. -/
def nameLimit : Nat := 255

/-- The place that names lead to from the directory at `start`; the last name may
be missing there. `followed` says where a link leads, given the place that it is
in, its target and the names after it. -/
def walk (t : Tree) (followed : Place → Path → List Text → Except Fault Place) :
    (start : Place) → List Text → Except Fault Place
  | start, [] => .ok start
  | start, name :: rest =>
    if name = ['.'] then walk t followed start rest
    else if name = ['.', '.'] then walk t followed (placeAbove start) rest
    else if nameLimit < (Text.utf8 name).length then .error .nameTooLong
    else
      match t.entry? (start ++ [name]) with
      | none => if rest = [] then .ok (start ++ [name]) else .error .notFound
      | some (.file _) => if rest = [] then .ok (start ++ [name]) else .error .notDirectory
      | some .directory => walk t followed (start ++ [name]) rest
      | some (.link target) => followed start target rest

/-- The directory that a path starts from, which is outside where the path is
absolute. -/
def startOf (here : Place) (path : Path) : Place :=
  if path.head? = some '/' then outside else here

/-- The place that names lead to, through at most `links` links. -/
def follow (t : Tree) : (links : Nat) → Place → List Text → Except Fault Place
  | 0 => walk t fun _ _ _ => .error .tooManyLinks
  | links + 1 => walk t fun here target rest =>
    follow t links (startOf here target) (target.parts ++ rest)

/-- The place that a path leads to. The last name may be missing there. -/
def resolve (t : Tree) (path : Path) : Except Fault Place :=
  if path = [] then .error .notFound
  else if path.elem '\x00' then .error .nulInPath
  else follow t linkLimit (startOf [] path) path.parts

/-- The entry that a path leads to. A path that ends in a separator leads to
directories only. -/
def find (t : Tree) (path : Path) : Except Fault (Place × Entry) := do
  let place ← t.resolve path
  match t.entry? place with
  | none => .error .notFound
  | some (.file content) =>
    if path.getLast? = some '/' then .error .notDirectory else .ok (place, .file content)
  | some entry => .ok (place, entry)

/-- The content of the file that a path leads to. -/
def readBytes (t : Tree) (path : Path) : Except Fault (List UInt8) := do
  match (← t.find path).2 with
  | .file content => .ok content
  | _ => .error .isDirectory

/-- The kind of the entry that a path leads to. -/
def kind (t : Tree) (path : Path) : Except Fault Kind := do
  return (← t.find path).2.kind

/-- The names of the entries in the directory that a path leads to. -/
def entries (t : Tree) (path : Path) : Except Fault (List (Text × Kind)) := do
  match ← t.find path with
  | (place, .directory) =>
    .ok (t.filterMap fun item =>
      match item.1.getLast? with
      | some name => if item.1.dropLast = place then some (name, item.2.kind) else none
      | none => none)
  | _ => .error .notDirectory

/-- Whether a path ends in a name that can be made: not in a separator, in the
directory itself or in the one above. -/
def endsInName (path : Path) : Bool :=
  path.getLast? != some '/' &&
    match path.parts.getLast? with
    | some name => name != ['.'] && name != ['.', '.']
    | none => false

/-- The tree with the content in the file that a path leads to. -/
def writeBytes (t : Tree) (path : Path) (content : List UInt8) : Except Fault Tree := do
  if endsInName path then
    let place ← t.resolve path
    match t.entry? place with
    | some .directory => .error .isDirectory
    | _ => .ok (t.put place (.file content))
  else
    let _ ← t.resolve path
    .error .isDirectory

/-- The tree with a directory where the path leads to. The directories above are
there, and nothing stands in its place. -/
def makeDirectory (t : Tree) (path : Path) : Except Fault Tree := do
  if path = [] then .error .notFound
  else if path.elem '\x00' then .error .nulInPath
  else
    match path.parts.getLast? with
    | none => .error .alreadyExists
    | some name =>
      let above ← follow t linkLimit (startOf [] path) (path.parts.dropLast ++ [['.']])
      if name = ['.'] ∨ name = ['.', '.'] then .error .alreadyExists
      else if nameLimit < (Text.utf8 name).length then .error .nameTooLong
      else
        match t.entry? (above ++ [name]) with
        | some _ => .error .alreadyExists
        | none => .ok (t.put (above ++ [name]) .directory)

/-- A step that changes the tree, as a program: a refusal leaves the tree as it
was. -/
def change (step : Tree → Except Fault Tree) : ExceptT Fault (StateM Tree) Unit :=
  fun t =>
    match step t with
    | .ok changed => (.ok (), changed)
    | .error fault => (.error fault, t)

/-- A question to the tree, as a program. -/
def ask {α : Type} (question : Tree → Except Fault α) : ExceptT Fault (StateM Tree) α :=
  fun t => (question t, t)

/-- Programs that carry a tree along have it as their file system. -/
instance : FileSystem (StateM Tree) where
  readBytes path := ask fun t => t.readBytes path
  writeBytes path content := change fun t => t.writeBytes path content
  makeDirectory path := change fun t => t.makeDirectory path
  kind path := ask fun t => t.kind path
  entries path := ask fun t => t.entries path

end Tree

end ContractScaffold
