/-
Where templates come from: a shelf in memory, or a directory of template files
named by the template's name and the extension of sources.

* `TemplateSource`: the two kinds of sources.
* `isTemplateName`: the names that may be looked up in a directory; none of them
  leads out of it.
* `TemplateSource.names`, `TemplateSource.load`: the names on offer, and the
  template under a name.
-/
import ContractScaffold.Output
import ContractScaffold.Template.Store

namespace ContractScaffold

open Text

/-- A source of templates. -/
inductive TemplateSource where
  | shelf (shelf : Shelf)
  | directory (dir : Path)

/-- A name of letters, digits, underscores, hyphens and single dots. -/
def isTemplateName (name : Text) : Bool :=
  !name.isEmpty && name.all (fun c => isWordChar c || c == '-' || c == '.') &&
    !occursIn ".." name

/-- The path of a template in a directory. -/
def templatePath (dir : Path) (name : Text) : Path :=
  dir.join (name ++ '.' :: sourceExtension)

/-- The name of the template in a file of that name, where it is a template
file. -/
def templateNameOf? (fileName : Text) : Option Text :=
  if hasExtension sourceExtension fileName then some (stemAndExtension fileName).1 else none

namespace TemplateSource

variable {m : Type → Type} [Monad m] [FileSystem m]

/-- The names of the templates, in order. -/
def names : TemplateSource → ExceptT Failure m (List Text)
  | shelf s => return s.names
  | directory dir => do
    let entries ← atPath dir (FileSystem.entries dir)
    return (entries.filterMap fun e => templateNameOf? e.1).mergeSort inOrder

/-- The template under a name. In a directory it is a regular file. -/
def load (source : TemplateSource) (name : Text) : ExceptT Failure m Text :=
  match source with
  | shelf s => ExceptT.mk (pure (s.load name))
  | directory dir => do
    let path := templatePath dir name
    if isTemplateName name then
      if ← atPath path (FileSystem.isKind .file path) then atPath path (FileSystem.readText path)
      else throw (.templateNotFound name)
    else throw (.templateNotFound name)

end TemplateSource

end ContractScaffold
