import ChartScript.Document.Value

/-!
# Names of a TOML document

A TOML document gives values to dotted names.  `Names` is what has been said so far: the values, and
marks on names that restrict what may be said later.

* A name is `declared` once a header or a dotted name before it has opened it as a table; it cannot
  be opened again.
* A name is `frozen` once a list or an inline table is its value; nothing below it can be changed.
-/

set_option autoImplicit false

namespace ChartScript
namespace Toml

/-- The parts of a dotted name. -/
abbrev Dotted := List Text

/-- The entries of a table. -/
abbrev Entries := List (Text × Value)

/-- Changes the table at a path, opening the tables on the way that are not there yet.  A list on
the way stands for its last item when `throughLists` is set.  Fails when something else than a table
is in the way. -/
def modifyAt (throughLists : Bool) (change : Entries → Option Entries) :
    Dotted → Entries → Option Entries
  | [], entries => change entries
  | name :: path, entries =>
    match Value.lookup name entries with
    | none => do
      let inner ← modifyAt throughLists change path []
      some (Value.insert name (.table inner) entries)
    | some (.table inner) => do
      let inner ← modifyAt throughLists change path inner
      some (Value.insert name (.table inner) entries)
    | some (.list items) =>
      match throughLists, items.getLast? with
      | true, some (.table inner) => do
        let inner ← modifyAt throughLists change path inner
        some (Value.insert name (.list (items.dropLast ++ [.table inner])) entries)
      | _, _ => none
    | some _ => none

/-- Adds an entry that must not be there yet. -/
def addEntry (name : Text) (value : Value) (entries : Entries) : Option Entries :=
  if (Value.lookup name entries).isSome then none else some (Value.insert name value entries)

/-- Adds an empty table to the list of a name, or starts the list. -/
def appendTable (name : Text) (entries : Entries) : Option Entries :=
  match Value.lookup name entries with
  | none => some (Value.insert name (.list [.table []]) entries)
  | some (.list items) => some (Value.insert name (.list (items ++ [.table []])) entries)
  | some _ => none

/-- Whether a value freezes its name. -/
def freezes : Value → Bool
  | .list _ => true
  | .table _ => true
  | _ => false

/-- The values and the marks of a document. -/
structure Names where
  entries : Entries := []
  declared : List Dotted := []
  frozen : List Dotted := []
  /-- Names that become declared at the next header. -/
  pending : List Dotted := []

namespace Names

/-- Whether a name is frozen: it is marked, or a name it starts with is. -/
def isFrozen (n : Names) (path : Dotted) : Bool := n.frozen.any (·.isPrefixOf path)

/-- Whether a name is declared. -/
def isDeclared (n : Names) (path : Dotted) : Bool := n.declared.contains path

/-- Makes the names that were waiting for a header declared. -/
def settle (n : Names) : Names := { n with declared := n.declared ++ n.pending, pending := [] }

/-- Opens a table by a header. -/
def openTable (n : Names) (path : Dotted) : Option Names := do
  if n.isDeclared path || n.isFrozen path then none
  else
    let entries ← modifyAt true some path n.entries
    some { n with entries := entries, declared := path :: n.declared }

/-- Opens a new table of a list of tables by a header, which frees the names below it. -/
def openListItem (n : Names) (path : Dotted) : Option Names := do
  if n.isFrozen path then none
  else
    let name ← path.getLast?
    let entries ← modifyAt true (appendTable name) path.dropLast n.entries
    let keep := fun (p : Dotted) => !path.isPrefixOf p
    some { n with
      entries := entries
      declared := path :: n.declared.filter keep
      frozen := n.frozen.filter keep }

/-- The proper beginnings of a dotted name. -/
def beginnings (path : Dotted) : List Dotted :=
  (List.range (path.length - 1)).map fun i => path.take (i + 1)

/-- Gives a dotted name below a header its value. -/
def assign (n : Names) (header path : Dotted) (value : Value) : Option Names := do
  let tables := (beginnings path).map (header ++ ·)
  if tables.any n.isDeclared || n.isFrozen (header ++ path.dropLast) then none
  else
    let name ← path.getLast?
    let entries ← modifyAt true (addEntry name value) (header ++ path.dropLast) n.entries
    some { n with
      entries := entries
      pending := n.pending ++ tables
      frozen := if freezes value then (header ++ path) :: n.frozen else n.frozen }

end Names

/-- Gives a dotted name of an inline table its value.  `frozen` are the names of the inline table
whose values can no longer be changed. -/
def assignInline (entries : Entries) (frozen : List Dotted) (path : Dotted) (value : Value) :
    Option Entries := do
  if frozen.any (·.isPrefixOf path) then none
  else
    let name ← path.getLast?
    modifyAt false (addEntry name value) path.dropLast entries

end Toml
end ChartScript
