/-
TOML documents as values, and the rules by which keys and headers build them: a
key has one value, a header opens a table once, and a dotted key neither reopens
a table with a header nor extends a value.

* `Toml`, `Members`: the values, and the members of a table in order.
* `Members.insert`: the members with a value under a dotted key.
* `Members.openTable`, `Members.openItem`: the members with the table of a header
  opened, and with a new item of an array of tables.
* `Members.within`: the members with the open table changed.
-/
import ContractScaffold.Text.Basic

namespace ContractScaffold

/-- How a table came to be. -/
inductive Origin where
  /-- By a header of its own. -/
  | header
  /-- As a table on the way of a longer header. -/
  | implied
  /-- As a table on the way of a dotted key. -/
  | dotted
  deriving DecidableEq, Repr

/-- A TOML value. Numbers and moments are kept as they were written. -/
inductive Toml where
  | string (t : Text)
  | boolean (b : Bool)
  | integer (written : Text)
  | float (written : Text)
  | moment (written : Text)
  | array (items : List Toml)
  | inlineTable (members : List (Text × Toml))
  | table (origin : Origin) (members : List (Text × Toml))
  | tables (items : List (List (Text × Toml)))

/-- The members of a table, in order. -/
abbrev Members := List (Text × Toml)

namespace Members

/-- The members with the value in place of the one under the key. -/
def replace (key : Text) (value : Toml) (ms : Members) : Members :=
  ms.map fun member => if member.1 = key then (key, value) else member

/-- The members with the value under a dotted key. Tables on the way are made,
and the key itself must be free. -/
def insert (value : Toml) : (key : List Text) → Members → Option Members
  | [], _ => none
  | [key], ms => if (ms.lookup key).isNone then some (ms ++ [(key, value)]) else none
  | key :: next :: rest, ms =>
    match ms.lookup key with
    | none => return ms ++ [(key, .table .dotted (← insert value (next :: rest) []))]
    | some (.table .dotted inner) =>
      return ms.replace key (.table .dotted (← insert value (next :: rest) inner))
    | some (.table .implied inner) =>
      if rest = [] then none
      else return ms.replace key (.table .implied (← insert value (next :: rest) inner))
    | some (.tables items) =>
      if rest = [] then none
      else
        return ms.replace key
          (.tables (items.dropLast ++ [← insert value (next :: rest) (items.getLastD [])]))
    | some _ => none

/-- The members with what the last name of a header stands for changed. Tables on
the way are made, and of an array of tables the last item counts. -/
def descend (change : Text → Members → Option Members) :
    (header : List Text) → Members → Option Members
  | [], _ => none
  | [key], ms => change key ms
  | key :: next :: rest, ms =>
    match ms.lookup key with
    | none => return ms ++ [(key, .table .implied (← descend change (next :: rest) []))]
    | some (.table origin inner) =>
      return ms.replace key (.table origin (← descend change (next :: rest) inner))
    | some (.tables items) =>
      return ms.replace key
        (.tables (items.dropLast ++ [← descend change (next :: rest) (items.getLastD [])]))
    | some _ => none

/-- The members with the table of a header opened. -/
def openTable : (header : List Text) → Members → Option Members :=
  descend fun key ms =>
    match ms.lookup key with
    | none => some (ms ++ [(key, .table .header [])])
    | some (.table .implied inner) => some (ms.replace key (.table .header inner))
    | some _ => none

/-- The members with a new item of the array of tables of a header. -/
def openItem : (header : List Text) → Members → Option Members :=
  descend fun key ms =>
    match ms.lookup key with
    | none => some (ms ++ [(key, .tables [[]])])
    | some (.tables items) => some (ms.replace key (.tables (items ++ [[]])))
    | some _ => none

/-- The members with the table of the open header changed; before the first
header that is the whole document. -/
def within (header : List Text) (change : Members → Option Members) (ms : Members) :
    Option Members :=
  if header = [] then change ms
  else
    descend (fun key inner =>
      match inner.lookup key with
      | some (.table origin members) =>
        return inner.replace key (.table origin (← change members))
      | some (.tables items) =>
        return inner.replace key (.tables (items.dropLast ++ [← change (items.getLastD [])]))
      | _ => none) header ms

end Members

end ContractScaffold
