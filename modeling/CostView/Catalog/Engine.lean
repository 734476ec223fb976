import CostView.Diagnostic
import CostView.SqlType

/-!
# Query engines

A query engine is known by three operations on its catalog, each of which may fail.  An engine that
is traced behaves in the same way and records what it is asked for.
-/

namespace CostView

/-- A column as a catalog reports it: its name and the text of its type. -/
structure ColumnInfo where
  name : String
  typeText : String
deriving DecidableEq, Repr

/-- The type of a column. -/
def ColumnInfo.type (c : ColumnInfo) : SqlType :=
  SqlType.parse c.typeText

/-- Why an operation on a catalog fails: there is no such table or view, the engine refuses the
statement, or the catalog itself cannot be loaded. -/
inductive CatalogError where
  | notFound (name : String)
  | rejected (message : String)
  | unreadable (reason : String)
deriving DecidableEq, Repr

/-- The message about an operation that failed. -/
def CatalogError.message : CatalogError → String
  | .notFound name => "Table or view '" ++ name ++ "' does not exist"
  | .rejected message => "Query engine rejected statement: " ++ message
  | .unreadable reason => "Failed to load catalog snapshot: " ++ reason

/-- A computation over a catalog in a state `σ` that gives notices. -/
abbrev Action (σ : Type) := StateT σ Noted

/-- Give a notice. -/
def Action.tell {σ : Type} (notice : Notice) : Action σ Unit :=
  fun s => ⟨((), s), [notice]⟩

/-- A query engine whose catalog is in a state `σ`: the columns of a table or view, the text of a
view, and the execution of a statement. -/
structure Engine (σ : Type) where
  listColumns : String → Action σ (Except CatalogError (List ColumnInfo))
  definitionText : String → Action σ (Except CatalogError String)
  execute : String → Action σ (Except CatalogError Unit)

/-- An operation that was asked of an engine. -/
inductive Call where
  | listColumns (name : String)
  | definitionText (name : String)
  | execute (sql : String)
deriving DecidableEq, Repr

/-- The state of an engine and what it was asked for, in order. -/
structure Traced (σ : Type) where
  state : σ
  calls : List Call

namespace Engine

variable {σ : Type}

/-- Run an operation and record that it was asked for. -/
def record {α : Type} (call : Call) (operation : Action σ α) : Action (Traced σ) α :=
  fun s =>
    let r := operation s.state
    ⟨(r.value.1, ⟨r.value.2, s.calls ++ [call]⟩), r.notices⟩

/-- The engine that behaves in the same way and records what it is asked for. -/
def traced (engine : Engine σ) : Engine (Traced σ) where
  listColumns name := record (.listColumns name) (engine.listColumns name)
  definitionText name := record (.definitionText name) (engine.definitionText name)
  execute sql := record (.execute sql) (engine.execute sql)

end Engine

end CostView
