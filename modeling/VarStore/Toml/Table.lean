import VarStore.Toml.Value

/-!
# Putting a table together

A text gives the entries of a table one by one, each with the path that leads to it.  Whatever is
missing on the way is made, and what is there may be entered under these rules.

* A table that was written between braces is complete.
* Along a dotted key, tables that have a header of their own may not be entered, and the last one
  on the way must have come about by dotted keys alone.
* Along a header every other table may be entered, and an array of tables at its last element.

A header may name a table that so far is only implied by others, but no table twice.
-/

namespace VarStore
namespace Toml
namespace Table

/-- Change the table at the end of a path.  Tables that are missing on the way are made with the
origin `made`; with `made = .dotted` the path is that of a dotted key. -/
def descend (made : Origin) (change : Origin → Table → Except Fault Table) :
    List String → Origin → Table → Except Fault Table
  | [], origin, t => change origin t
  | key :: path, _, t =>
    match t.lookup key with
    | none => (descend made change path made []).map fun u => t ++ [(key, .table made u)]
    | some (.table origin u) =>
      if origin = .braces ∨ made = .dotted ∧ origin = .header then .error (.keyTaken key)
      else (descend made change path origin u).map fun u => t.replace key (.table origin u)
    | some (.tables us) =>
      match us.getLast? with
      | none => .error (.keyTaken key)
      | some u =>
        (descend made change path .header u).map fun u =>
          t.replace key (.tables (us.dropLast ++ [u]))
    | some _ => .error (.keyTaken key)

/-- Add an entry under a key that must be new. -/
def add (t : Table) (key : String) (value : Value) : Except Fault Table :=
  match t.lookup key with
  | none => .ok (t ++ [(key, value)])
  | some _ => .error (.keyTaken key)

/-- Add an entry under a key with dots: the path to it, and its last part. -/
def addDotted (t : Table) (path : List String) (key : String) (value : Value) :
    Except Fault Table :=
  descend .dotted
    (fun origin u =>
      if path ≠ [] ∧ origin ≠ .dotted then .error (.keyTaken key) else u.add key value)
    path .header t

/-- Open the table that a header names. -/
def openTable (t : Table) (path : List String) (key : String) : Except Fault Table :=
  descend .implied
    (fun _ u =>
      match u.lookup key with
      | none => .ok (u ++ [(key, .table .header [])])
      | some (.table .implied v) => .ok (u.replace key (.table .header v))
      | some _ => .error (.keyTaken key))
    path .header t

/-- Open another element of the array of tables that a header names. -/
def openElement (t : Table) (path : List String) (key : String) : Except Fault Table :=
  descend .implied
    (fun _ u =>
      match u.lookup key with
      | none => .ok (u ++ [(key, .tables [[]])])
      | some (.tables us) => .ok (u.replace key (.tables (us ++ [[]])))
      | some _ => .error (.keyTaken key))
    path .header t

end Table

/-- A key with dots: what leads to the last part, and the last part. -/
structure Key where
  path : List String
  last : String
  deriving DecidableEq

/-- All parts of a key. -/
def Key.parts (k : Key) : List String := k.path ++ [k.last]

/-- A table from entries with dotted keys. -/
def Table.ofEntries (entries : List (Key × Value)) : Except Fault Table :=
  entries.foldlM (fun t p => Table.addDotted t p.1.path p.1.last p.2) []

/-! ## Statements -/

/-- What one line of a document says. -/
inductive Statement where
  /-- A header in single brackets. -/
  | table (key : Key)
  /-- A header in double brackets. -/
  | element (key : Key)
  /-- A key with its value. -/
  | entry (key : Key) (value : Value)

/-- A document in the making: the table so far, and the path of the last header. -/
structure Draft where
  table : Table
  header : List String

/-- Do what a statement says. -/
def Draft.apply (d : Draft) : Statement → Except Fault Draft
  | .table key => (d.table.openTable key.path key.last).map fun t => ⟨t, key.parts⟩
  | .element key => (d.table.openElement key.path key.last).map fun t => ⟨t, key.parts⟩
  | .entry key value =>
    (Table.descend .implied (fun _ u => u.addDotted key.path key.last value) d.header .header
      d.table).map fun t => ⟨t, d.header⟩

/-- The table that a sequence of statements describes. -/
def Table.ofStatements (statements : List Statement) : Except Fault Table :=
  (statements.foldlM Draft.apply ⟨[], []⟩).map (·.table)

end Toml
end VarStore
