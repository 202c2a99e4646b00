import Hexfield.Toml.Statement

namespace Hexfield
namespace Toml

/-!
The tables that the statements of a document build up.

A table comes about by its own header, by the header of a table within it, or by a key with several
names.  How it came about decides what may still be added to it: a header opens a table once only,
and a key with several names adds only to tables that such keys have made.  No key is assigned
twice.
-/

inductive Node where
  | leaf (value : Value)
  /-- A table.  It is implicit as long as no header has opened it, and dotted if a key with several
  names has made it. -/
  | table (implicit dotted : Bool) (entries : List (String × Node))
  /-- An array of tables, the last one first. -/
  | tables (elements : List (List (String × Node)))

namespace Node

abbrev Entries := List (String × Node)

/-- The entries with one of them replaced, or added behind the others. -/
def put (name : String) (node : Node) : Entries → Entries
  | [] => [(name, node)]
  | entry :: others =>
      if entry.1 == name then (name, node) :: others else entry :: put name node others

/-- The change of a table, which has been made by a key with several names or has not.  There is no
result, if the change is not allowed. -/
abbrev Change := Bool → Entries → Option Entries

/-- A change of the table at the end of a path, whose tables are made on the way where there are
none.  A dotted path does not lead through a table that has a header; an array of tables stands for
its last element. -/
def at? (viaDots : Bool) (change : Change) : Path → Change
  | [], dotted, entries => change dotted entries
  | name :: path, _, entries =>
      match entries.lookup name with
      | none =>
          (at? viaDots change path viaDots []).map fun below =>
            put name (.table true viaDots below) entries
      | some (.leaf _) => none
      | some (.tables []) => none
      | some (.tables (last :: earlier)) =>
          (at? viaDots change path false last).map fun below =>
            put name (.tables (below :: earlier)) entries
      | some (.table implicit dotted content) =>
          if viaDots && !implicit then none
          else
            (at? viaDots change path dotted content).map fun below =>
              put name (.table implicit dotted below) entries

/-- A value is assigned to a key, whose last name must be new.  A key with several names adds only
to a table that such a key has made, and a key with one name only to one that it has not. -/
def assign (path : Path) (value : Value) : Change := fun dotted entries =>
  match path.getLast? with
  | none => none
  | some name =>
      at? true (fun dotted entries =>
        if dotted = path.dropLast.isEmpty then none
        else if (entries.lookup name).isSome then none
        else some (put name (.leaf value) entries)) path.dropLast dotted entries

/-- A header opens a table that is new or implicit. -/
def openTable (path : Path) : Change := fun dotted entries =>
  match path.getLast? with
  | none => none
  | some name =>
      at? false (fun _ entries =>
        match entries.lookup name with
        | none => some (put name (.table false false []) entries)
        | some (.table true false content) => some (put name (.table false false content) entries)
        | some _ => none) path.dropLast dotted entries

/-- A header opens one more element of an array of tables. -/
def openElement (path : Path) : Change := fun dotted entries =>
  match path.getLast? with
  | none => none
  | some name =>
      at? false (fun _ entries =>
        match entries.lookup name with
        | none => some (put name (.tables [[]]) entries)
        | some (.tables elements) => some (put name (.tables ([] :: elements)) entries)
        | some _ => none) path.dropLast dotted entries

mutual

/-- What stands under a name, as a value. -/
def toValue : Node → Value
  | leaf value => value
  | table _ _ entries => .table (entriesToValue entries)
  | tables elements => .array (elementsToValue elements).reverse

/-- The entries of a table, as values. -/
def entriesToValue : Entries → List (String × Value)
  | [] => []
  | (name, node) :: others => (name, toValue node) :: entriesToValue others

/-- The elements of an array of tables, as values. -/
def elementsToValue : List Entries → List Value
  | [] => []
  | entries :: others => .table (entriesToValue entries) :: elementsToValue others

end

end Node

namespace Statement

/-- The entries of a table that assignments build up. -/
def assignAll (assignments : List (Path × Value)) : Option Node.Entries :=
  assignments.foldlM (fun entries (path, value) => Node.assign path value false entries) []

mutual

def Literal.toValue? : Literal → Option Value
  | .scalar value => some value
  | .array items => (Literal.itemValues? items).map .array
  | .inline assignments => do
      let values ← Literal.assignedValues? assignments
      let entries ← assignAll values
      pure (.table (Node.entriesToValue entries))

/-- The items of an array that was written. -/
def Literal.itemValues? : List Literal → Option (List Value)
  | [] => some []
  | item :: others => do
      let value ← Literal.toValue? item
      let values ← Literal.itemValues? others
      pure (value :: values)

/-- The assignments of a table that was written. -/
def Literal.assignedValues? : List (Path × Literal) → Option (List (Path × Value))
  | [] => some []
  | (path, item) :: others => do
      let value ← Literal.toValue? item
      let values ← Literal.assignedValues? others
      pure ((path, value) :: values)

end

/-- What one statement changes: the whole document and the path of the current table. -/
def apply (document : Node.Entries × Path) (statement : Statement Literal) :
    Option (Node.Entries × Path) := do
  let (entries, current) := document
  match statement with
  | .assign path literal =>
      let value ← literal.toValue?
      let entries ← Node.at? false (Node.assign path value) current false entries
      pure (entries, current)
  | .table path => pure (← Node.openTable path false entries, path)
  | .element path => pure (← Node.openElement path false entries, path)

end Statement

/-- The document that a text holds. -/
def Value.ofText? (text : String) : Option Value := do
  let statements ← Statement.ofText? text
  let (entries, _) ← statements.foldlM Statement.apply ([], [])
  pure (.table (Node.entriesToValue entries))

end Toml
end Hexfield
