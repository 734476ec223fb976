import CostView.Catalog.Basic
import CostView.Expression.Parser
import CostView.FieldTable.Basic

/-!
# Source tables

Of the source of a view two facts matter: which columns it has, by name without regard to ASCII
case, and of which generation it is.
-/

namespace CostView

/-- A table whose columns a view may read. -/
structure SourceTable where
  name : String
  generation : Generation
  columns : Std.ExtTreeMap String SqlType

namespace SourceTable

/-- The source with the given columns.  Of two columns of one name the last counts. -/
def ofColumns (name : String) (generation : Generation) (columns : List ColumnInfo) :
    SourceTable :=
  ⟨name, generation, .ofList (columns.map fun c => (Text.lowered c.name, c.type))⟩

/-- Whether the source has a column. -/
def hasColumn (t : SourceTable) (name : String) : Bool :=
  t.columns.contains (Text.lowered name)

/-- The type of a column. -/
def columnType? (t : SourceTable) (name : String) : Option SqlType :=
  t.columns[Text.lowered name]?

/-- The number of columns. -/
def columnCount (t : SourceTable) : Nat :=
  t.columns.size

/-- A text without the double quotes at its ends. -/
def unquoted (text : String) : String :=
  String.ofList (Text.trimBoth (· = '"') text.toList)

/-- Whether the source has what a requirement asks for.  A key of a map column only asks for the
column, since the keys are not part of the metadata. -/
def hasRequirement (t : SourceTable) (requirement : String) : Bool :=
  match Expr.parse requirement with
  | .error _ => t.hasColumn requirement
  | .ok e =>
    match e.subscript? with
    | some (container, _) => t.hasColumn container
    | none => t.hasColumn (unquoted requirement)

/-- The generation of a table: two if one of the map columns of that generation is there and has a
map type. -/
def detectGeneration (columns : List ColumnInfo) (table : FieldTable) : Generation :=
  if columns.any fun c => table.isMapField (Text.lowered c.name) && c.type.isMap then .two
  else .one

/-- Read a source from a catalog, of the given generation or of the one it looks like. -/
def load {σ : Type} (engine : Engine σ) (name : String) (generation : Option Generation)
    (table : FieldTable) : Action σ (Except CatalogError SourceTable) := do
  match ← engine.listColumns name with
  | .error e => return .error e
  | .ok columns =>
    Action.tell (.line .debug
      ("Source table " ++ name ++ " has " ++ toString columns.length ++ " columns"))
    match generation with
    | some g => return .ok (ofColumns name g columns)
    | none =>
      let g := detectGeneration columns table
      Action.tell (.line .info ("Detected CUR" ++ g.digit ++ " schema for table " ++ name))
      return .ok (ofColumns name g columns)

end SourceTable

end CostView
