import NodeKeys.Toml.Value

/-!
# Defining TOML tables

A document is a sequence of definitions: headers that open a table, and keys that are given a value in the
table that was opened last.  Nothing can be defined twice.  What counts as a second definition depends on how
a table came to be.

- A header may open a table that exists only because other headers name tables inside it.
- A dotted key may pass through such tables, and through tables that dotted keys have made.  It may set a
  value only in the latter.
- A value in braces is complete.
- Whoever passes through the tables of one name that headers in double brackets have made, gets to the last
  of them.
-/

namespace NodeKeys
namespace Toml

/-- A key with the names in front of its last one. -/
structure KeyPath where
  parents : List String
  name : String
  deriving DecidableEq, Repr

def KeyPath.names (key : KeyPath) : List String :=
  key.parents ++ [key.name]

/-- A line of a document. -/
inductive Definition where
  /-- A header in single brackets. -/
  | header (key : KeyPath)
  /-- A header in double brackets. -/
  | element (key : KeyPath)
  /-- A key and its value. -/
  | assignment (key : KeyPath) (value : Value)

/-- Who passes through tables. -/
inductive Visitor where
  | header
  | dottedKey
  deriving DecidableEq, Repr

namespace Visitor

/-- What a table is that the visitor makes because it is missing. -/
def makes : Visitor → Origin
  | header => .implied
  | dottedKey => .dotted

def mayPass : Visitor → Origin → Bool
  | header, origin => origin != .braced
  | dottedKey, origin => origin == .implied || origin == .dotted

end Visitor

/-- Follow a path from a table on and change the table at its end.  Tables that are missing on the way are
made.  The change is told how the table at the end was written. -/
def amend (visitor : Visitor) (change : Origin → Entries → Option Entries) :
    List String → Origin → Entries → Option Entries
  | [], origin, entries => change origin entries
  | name :: path, _, entries =>
    match Table.find? name entries with
    | none => do
      let made ← amend visitor change path visitor.makes []
      return Table.insert name (.table visitor.makes made) entries
    | some (.table origin inner) =>
      if visitor.mayPass origin then do
        let amended ← amend visitor change path origin inner
        return Table.insert name (.table origin amended) entries
      else none
    | some (.tables elements) => do
      let amended ← amend visitor change path .header (← elements.getLast?)
      return Table.insert name (.tables (elements.dropLast ++ [amended])) entries
    | some _ => none

def assign (key : KeyPath) (value : Value) (entries : Entries) : Option Entries :=
  amend .dottedKey
    (fun origin inner =>
      if (key.parents.isEmpty || origin == .dotted) && (Table.find? key.name inner).isNone then
        some (Table.insert key.name value inner)
      else none)
    key.parents .header entries

def openTable (key : KeyPath) (root : Entries) : Option Entries :=
  amend .header
    (fun _ inner =>
      match Table.find? key.name inner with
      | none => some (Table.insert key.name (.table .header []) inner)
      | some (.table .implied known) => some (Table.insert key.name (.table .header known) inner)
      | some _ => none)
    key.parents .header root

/-- Open another table of the name that a header in double brackets gives. -/
def openElement (key : KeyPath) (root : Entries) : Option Entries :=
  amend .header
    (fun _ inner =>
      match Table.find? key.name inner with
      | none => some (Table.insert key.name (.tables [[]]) inner)
      | some (.tables elements) => some (Table.insert key.name (.tables (elements ++ [[]])) inner)
      | some _ => none)
    key.parents .header root

/-- A document and the table that is open in it. -/
structure Draft where
  root : Entries := []
  /-- The names that lead from the root to the open table. -/
  opened : List String := []

/-- Take a definition into a document; none if it defines something twice. -/
def Draft.add (draft : Draft) : Definition → Option Draft
  | .header key => (openTable key draft.root).map fun root => ⟨root, key.names⟩
  | .element key => (openElement key draft.root).map fun root => ⟨root, key.names⟩
  | .assignment key value =>
    (amend .header (fun _ inner => assign key value inner) draft.opened .header draft.root).map
      fun root => { draft with root }

def ofDefinitions (definitions : List Definition) : Option Entries :=
  (definitions.foldlM Draft.add {}).map Draft.root

/-- The table in braces that assignments make. -/
def ofAssignments (assignments : List (KeyPath × Value)) : Option Value :=
  (assignments.foldlM (fun entries (key, value) => assign key value entries) []).map (.table .braced)

end Toml
end NodeKeys
