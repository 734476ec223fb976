import CostView.Resolution
import CostView.View.Definition

/-!
# From resolutions to the columns of a view

A column whose requirements all exist in the source is the expression it resolved to.  Otherwise it
becomes the NULL of its type, and without such a type it cannot be exposed.  In an assembled map
each key has the value of its source column, or NULL.
-/

namespace CostView

/-- The value of a key in an assembled map, with a notice if its source column does not exist. -/
def synthesizeCell (table : FieldTable) (isThere : String → Bool) (container : MapField)
    (key : String) : Noted (String × Cell) :=
  let column := table.columnForKey container.name key
  if isThere column then return (key, .column column)
  else do
    let subject := container.name ++ "['" ++ key ++ "']"
    Noted.tell (.once .missingRequirement subject
      ("Source column '" ++ column ++ "' not found, exposing " ++ subject ++ " as NULL"))
    return (key, .null (container.valueType.nullLiteral?.getD SqlType.nullVarchar))

/-- The values of keys in an assembled map. -/
def synthesizeCells (table : FieldTable) (isThere : String → Bool) (container : MapField) :
    List String → Noted (List (String × Cell))
  | [] => return []
  | key :: keys => do
    let cell ← synthesizeCell table isThere container key
    let cells ← synthesizeCells table isThere container keys
    return cell :: cells

/-- The NULL that a column becomes when something it requires is missing. -/
def synthesizeNull (target : Generation) (field requirement : String) (type : Option SqlType) :
    Noted (Except UnknownField ColumnValue) :=
  match type with
  | none => return .error ⟨field, target, .missing requirement⟩
  | some type =>
    match type.nullLiteral? with
    | none => return .error ⟨field, target, .missingTyped requirement type⟩
    | some literal => do
      Noted.tell (.once .missingRequirement field
        ("Source column '" ++ requirement ++ "' not found, exposing '" ++ field ++ "' as NULL"))
      return .ok (.null literal)

/-- What a column of the view holds.  `isThere` tells whether a requirement exists in the source,
`keys` are the keys of the column if it is an assembled map. -/
def synthesize (table : FieldTable) (target : Generation) (isThere : String → Bool)
    (field : String) (type : Option SqlType) (resolution : Resolution)
    (keys : Std.ExtTreeSet String) : Noted (Except UnknownField ColumnValue) :=
  match resolution with
  | .derived expr requirements =>
    match requirements.find? fun r => !isThere r with
    | none => return .ok (.expr expr)
    | some requirement => synthesizeNull target field requirement type
  | .assembly container =>
    if keys.isEmpty then return .ok (.null SqlType.nullMap)
    else do
      let cells ← synthesizeCells table isThere container keys.toList
      return .ok (.map cells)

end CostView
