/-
Templates held in memory, under their names in order.

* `Shelf`: the templates, and `Shelf.insert`, `Shelf.ofList` to build it.
* `Shelf.names`, `Shelf.load`: the names, and the text under a name.
* `Shelf.bundled`: the templates that the library brings.
-/
import ContractScaffold.Failure
import ContractScaffold.Family
import ContractScaffold.Template.Bundled

namespace ContractScaffold

/-- Templates under their names, in the order of the names. -/
abbrev Shelf := List (Text × Text)

namespace Shelf

/-- The shelf with the text under the name, in place of what was there. -/
def insert (name text : Text) : Shelf → Shelf
  | [] => [(name, text)]
  | entry :: rest =>
    if entry.1 = name then (name, text) :: rest
    else if name < entry.1 then (name, text) :: entry :: rest
    else entry :: insert name text rest

/-- The shelf of templates, of which the last under a name counts. -/
def ofList (templates : List (Text × Text)) : Shelf :=
  templates.foldl (fun shelf t => insert t.1 t.2 shelf) []

/-- The names of the templates, in order. -/
def names (shelf : Shelf) : List Text :=
  shelf.map Prod.fst

/-- The text under a name. -/
def load (shelf : Shelf) (name : Text) : Except Failure Text :=
  match shelf.lookup name with
  | some text => .ok text
  | none => .error (.templateNotFound name)

/-- The bundled templates. -/
def bundled : Shelf :=
  ofList [(erc20Template, Template.erc20Source), (vaultTemplate, Template.vaultSource)]

end Shelf

end ContractScaffold
