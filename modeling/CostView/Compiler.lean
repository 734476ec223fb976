import CostView.SourceTable
import CostView.View.Introspection
import CostView.View.Synthesis

/-!
# Compiling a view

A compilation takes what is known about a view and a request, and makes the view expose what it
exposed before and what is requested.  If all of that is known to be exposed already, nothing is
asked of the engine.  Otherwise every column is rendered first, so that a field that cannot be
exposed leaves the view alone, and one statement creates the view anew.
-/

namespace CostView

/-- Why a compilation fails. -/
inductive CompileError where
  | unknownField (error : UnknownField)
  | catalog (error : CatalogError)
deriving DecidableEq, Repr

/-- The message about a compilation that failed. -/
def CompileError.message : CompileError → String
  | .unknownField error => error.message
  | .catalog error => error.message

/-- What a compilation did: the definition that was executed, unless the view was up to date, and
what is known about the view from now on. -/
structure Outcome where
  definition : Option ViewDefinition
  snapshot : Snapshot

/-- The statement that was executed. -/
def Outcome.sql? (o : Outcome) : Option String :=
  o.definition.map ViewDefinition.sql

/-- What views are compiled from: the equivalences, a source table and the generation whose layout
is exposed. -/
structure Compiler where
  table : FieldTable
  source : SourceTable
  target : Generation

namespace Compiler

/-- The part of a name up to and including its last point; nothing if it has none. -/
def qualifier (name : String) : String :=
  String.ofList (name.toList.reverse.dropWhile (· ≠ '.')).reverse

/-- The name of the view, in the database of the source. -/
def viewName (c : Compiler) : String :=
  qualifier c.source.name ++ c.target.viewName

/-- The crosswalk from the source to the layout of the target. -/
def crosswalk (c : Compiler) : Crosswalk :=
  ⟨c.table, c.source.generation, c.target⟩

/-- What a request makes the view expose. -/
def exposuresOf (c : Compiler) (request : Request) : Std.ExtTreeSet Exposure :=
  .ofList (request.toList.map c.crosswalk.exposureOf)

/-- The type of a column of the view: the declared one, else the one recorded for the live view,
else that of the source column if source and target are of one generation. -/
def targetType? (c : Compiler) (s : ViewState) (column : String) : Option SqlType :=
  c.table.declaredType? c.target column <|> s.columnType? column <|>
    if c.source.generation = c.target then c.source.columnType? column else none

/-- A column of the view. -/
def renderColumn (c : Compiler) (s : ViewState) (column : String) :
    Noted (Except UnknownField SelectItem) := do
  match ← c.crosswalk.resolve column with
  | .error e => return .error e
  | .ok resolution =>
    let value ← synthesize c.table c.target c.source.hasRequirement column (c.targetType? s column)
      resolution (s.keysOf column)
    return value.map fun v => ⟨column, v⟩

/-- Columns of the view in order; the first that cannot be exposed is the error. -/
def renderColumns (c : Compiler) (s : ViewState) :
    List String → Noted (Except UnknownField (List SelectItem))
  | [] => return .ok []
  | column :: rest => do
    match ← c.renderColumn s column with
    | .error e => return .error e
    | .ok item =>
      let items ← c.renderColumns s rest
      return items.map (item :: ·)

/-- The definition of the view that exposes a state. -/
def render (c : Compiler) (s : ViewState) : Noted (Except UnknownField ViewDefinition) := do
  let items ← c.renderColumns s s.columnNames
  return items.map fun items => ⟨c.viewName, items, c.source.name⟩

/-- A state with the type of every column recorded, as far as it is known. -/
def recordTypes (c : Compiler) (s : ViewState) : ViewState :=
  s.columnNames.foldl (fun t column => t.insertColumn column (c.targetType? s column)) s

/-- Make the view expose a state. -/
def deploy {σ : Type} (c : Compiler) (engine : Engine σ) (s : ViewState) :
    Action σ (Except CompileError Outcome) := do
  match ← (c.render s : Noted _) with
  | .error e => return .error (.unknownField e)
  | .ok definition =>
    Action.tell (.line .info
      ("Creating " ++ c.viewName ++ " over " ++ c.source.name ++ " (CUR" ++
        c.source.generation.digit ++ " -> CUR" ++ c.target.digit ++ ", " ++
        toString s.columnNames.length ++ " columns)"))
    Action.tell (.line .debug definition.sql)
    match ← engine.execute definition.sql with
    | .error e => return .error (.catalog e)
    | .ok () => return .ok ⟨some definition, .compiled (c.recordTypes s)⟩

/-- Make the view expose what it exposed before and what is requested. -/
def compile {σ : Type} (c : Compiler) (engine : Engine σ) (snapshot : Snapshot)
    (request : Request) : Action σ (Except CompileError Outcome) := do
  let requested := (c.exposuresOf request).toList
  match snapshot with
  | .fresh =>
    let s ← ViewState.introspect engine c.table c.viewName
    c.deploy engine (s.extend requested)
  | .compiled s =>
    if s.covers requested then
      Action.tell (.line .debug
        (c.viewName ++ " already exposes all " ++ toString requested.length ++
          " requested fields"))
      return .ok ⟨none, snapshot⟩
    else c.deploy engine (s.extend requested)

/-- A catalog with the view registered under the columns that it has now, if it was created. -/
def register (c : Compiler) (o : Outcome) (catalog : Catalog) : Catalog :=
  match o.sql?, o.snapshot.state? with
  | some sql, some s =>
    catalog.addView c.viewName (s.columnInfos.map fun e => ⟨e.1, e.2⟩) sql
  | _, _ => catalog

end Compiler

end CostView
