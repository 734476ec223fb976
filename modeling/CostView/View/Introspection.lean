import CostView.Catalog.Basic
import CostView.FieldTable.Basic
import CostView.View.MapKeys
import CostView.View.State

/-!
# Recovering the state of a live view

A view that already exists is asked for its columns and, if one of them may be a map, for the text
that created it.  What cannot be read is not exposed; it never keeps a compilation from going on.
-/

namespace CostView.ViewState

/-- The state with a column as the catalog reports it. -/
def insertReported (s : ViewState) (c : ColumnInfo) : ViewState :=
  s.insertColumn (Text.lowered c.name)
    (if Text.lower c.typeText.toList = "unknown".toList then none else some c.type)

/-- The columns whose keys are to be looked for: those of a map type or named like a map column. -/
def mapColumns (table : FieldTable) (columns : List ColumnInfo) : List String :=
  (columns.filter fun c => c.type.isMap || table.isMapField (Text.lowered c.name)).map fun c =>
    Text.lowered c.name

/-- The state with the keys that a text gives to a column, and a notice about them. -/
def readKeys (view text : String) (s : ViewState) (column : String) : Noted ViewState :=
  match MapKeys.parse? text column with
  | some keys => do
    Noted.tell (.line .debug
      ("View " ++ view ++ " exposes " ++ toString keys.length ++ " keys in " ++ column))
    return s.insertKeys column keys
  | none => do
    Noted.tell (.line .warn
      ("Map column " ++ column ++ " of view " ++ view ++
        " is not in the expected MAP(ARRAY[...], ARRAY[...]) form, its keys will not be preserved"))
    return s

/-- The state with the keys that a text gives to each of some columns. -/
def readAllKeys (view text : String) (s : ViewState) : List String → Noted ViewState
  | [] => return s
  | column :: rest => do
    let s ← readKeys view text s column
    readAllKeys view text s rest

/-- What a live view exposes; nothing if it cannot be read. -/
def introspect {σ : Type} (engine : Engine σ) (table : FieldTable) (view : String) :
    Action σ ViewState := do
  match ← engine.listColumns view with
  | .error e =>
    Action.tell (.line .warn
      ("Could not read columns of view " ++ view ++ ", treating it as empty: " ++ e.message))
    return .empty
  | .ok columns =>
    let s := columns.foldl insertReported .empty
    match mapColumns table columns with
    | [] => return s
    | first :: rest =>
      match ← engine.definitionText view with
      | .error e =>
        Action.tell (.line .warn
          ("Could not read definition of view " ++ view ++
            ", map keys will not be preserved: " ++ e.message))
        return s
      | .ok text => readAllKeys view (MapKeys.mergeChunks text) s (first :: rest)

end CostView.ViewState
