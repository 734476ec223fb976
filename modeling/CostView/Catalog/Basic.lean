import CostView.Catalog.Engine
import Std.Data.ExtTreeMap

/-!
# Catalogs of tables and views

The engine that is at hand everywhere is a catalog held in memory: it records the statements that
it executes and stores the text of each view that they create.
-/

namespace CostView

/-- A table, or a view with the text that created it. -/
structure CatalogTable where
  columns : List ColumnInfo
  definition : Option String
deriving DecidableEq, Repr

/-- A catalog held in memory: its tables, the statements executed so far, and the message with
which it refuses every further one. -/
structure Catalog where
  tables : Std.ExtTreeMap String CatalogTable
  executed : List String
  refusal : Option String

namespace Catalog

/-- A catalog of given tables. -/
def ofTables (tables : Std.ExtTreeMap String CatalogTable) : Catalog :=
  ⟨tables, [], none⟩

/-- Register a table. -/
def addTable (c : Catalog) (name : String) (columns : List ColumnInfo) : Catalog :=
  { c with tables := c.tables.insert name ⟨columns, none⟩ }

/-- Register a view. -/
def addView (c : Catalog) (name : String) (columns : List ColumnInfo) (definition : String) :
    Catalog :=
  { c with tables := c.tables.insert name ⟨columns, some definition⟩ }

/-- Refuse every further statement. -/
def refuse (c : Catalog) (message : String) : Catalog :=
  { c with refusal := some message }

/-- The first `n` words of a text, and what follows them. -/
def takeWords (n : Nat) (s : List Char) : List (List Char) × List Char :=
  match n with
  | 0 => ([], s)
  | n + 1 =>
    match (s.dropWhile Text.isBlank).takeWhile (!Text.isBlank ·) with
    | [] => ([], [])
    | word =>
      let (words, rest) := takeWords n ((s.dropWhile Text.isBlank).dropWhile (!Text.isBlank ·))
      (word :: words, rest)

/-- The name of the view that a statement creates: the word after `CREATE OR REPLACE VIEW`, in any
ASCII case. -/
def createdView? (sql : String) : Option String :=
  match (takeWords 5 sql.toList).1 with
  | [create, or, replace, view, name] =>
    if [create, or, replace, view].map Text.lower =
        ["create".toList, "or".toList, "replace".toList, "view".toList]
    then some (String.ofList name)
    else none
  | _ => none

/-- The catalog after a statement.  A view that it creates keeps the columns it had. -/
def afterStatement (c : Catalog) (sql : String) : Catalog :=
  let executed := c.executed ++ [sql]
  match createdView? sql with
  | none => { c with executed }
  | some view =>
    let columns := (c.tables[view]?).elim [] CatalogTable.columns
    { c with executed, tables := c.tables.insert view ⟨columns, some sql⟩ }

/-- The catalog as an engine. -/
def engine : Engine Catalog where
  listColumns name := do
    match (← get).tables[name]? with
    | some table => return .ok table.columns
    | none => return .error (.notFound name)
  definitionText name := do
    match ((← get).tables[name]?).bind CatalogTable.definition with
    | some text => return .ok text
    | none => return .error (.notFound name)
  execute sql := do
    match (← get).refusal with
    | some message => return .error (.rejected message)
    | none =>
      Action.tell (.line .debug ("InMemoryCatalog executing: " ++ sql))
      modify (afterStatement · sql)
      return .ok ()

end Catalog

end CostView
