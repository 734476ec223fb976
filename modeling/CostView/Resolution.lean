import CostView.Column
import CostView.Diagnostic
import CostView.Exposure
import CostView.Field

/-!
# Resolving fields of a layout

A view exposes a source table of one generation in the layout of a target generation.  Each column
of the target layout resolves to an expression over the source and what that expression requires,
or to a map that is assembled from one source column for each of its keys.
-/

namespace CostView

/-- How a column of the target layout comes from the source. -/
inductive Resolution where
  | derived (expr : Expr) (requirements : List String)
  | assembly (container : MapField)
deriving DecidableEq, Repr

/-- What has to exist in the source for the column not to be NULL. -/
def Resolution.requirements : Resolution → List String
  | .derived _ requirements => requirements
  | .assembly _ => []

/-- Why a column of the target layout cannot be exposed. -/
inductive Underivable where
  | noFlatColumn
  | noExpression
  | missing (requirement : String)
  | missingTyped (requirement : String) (type : SqlType)
deriving DecidableEq, Repr

/-- The reason why a column cannot be exposed. -/
def Underivable.reason : Underivable → String
  | .noFlatColumn => "no V1 column maps to this V2 field"
  | .noExpression => "no V2 expression maps to this V1 field"
  | .missing requirement =>
    "source column '" ++ requirement ++ "' is missing and the field type is unknown"
  | .missingTyped requirement type =>
    "source column '" ++ requirement ++ "' is missing and type '" ++ type.text ++
      "' has no NULL rendering"

/-- A column of the target layout that cannot be exposed. -/
structure UnknownField where
  field : String
  target : Generation
  cause : Underivable
deriving DecidableEq, Repr

/-- The message about a column that cannot be exposed. -/
def UnknownField.message (e : UnknownField) : String :=
  "Cannot expose field '" ++ e.field ++ "' in the CUR" ++ e.target.digit ++ " proxy: " ++
    e.cause.reason ++ ". Add a mapping for it to the field equivalence table"

/-- The generation of the source, the generation whose layout is exposed, and the equivalences
between them. -/
structure Crosswalk where
  table : FieldTable
  source : Generation
  target : Generation

namespace Crosswalk

/-- The column, or the key in a map column, that a requested field occupies in the target layout.
In generation one a key has a column of its own, in lower case like every other. -/
def exposureOf (t : Crosswalk) : Field → Exposure
  | .plain name => .ofColumn name
  | .mapKey container key =>
    match t.target with
    | .two => .ofKey container key
    | .one => .ofColumn (Text.lowered (t.table.columnForKey container key))

/-- The source column of the same name. -/
def passThrough (column : String) : Resolution :=
  let expr := Column.expr column
  .derived expr expr.columns

/-- A field that has no counterpart in the source. -/
def unknown (t : Crosswalk) (field : String) (cause : Underivable) :
    Noted (Except UnknownField Resolution) := do
  Noted.tell (.once .unknownField field
    ("Field '" ++ field ++ "' cannot be derived for a CUR" ++ t.source.digit ++ " -> CUR" ++
      t.target.digit ++ " proxy: " ++ cause.reason))
  return .error ⟨field, t.target, cause⟩

/-- A field of generation two over a source of generation one. -/
def resolveToMap (t : Crosswalk) (field : String) : Noted (Except UnknownField Resolution) :=
  match t.table.mapField? field with
  | some container => do
    Noted.tell (.once .mapContainer field
      ("'" ++ field ++ "' is a map container with no single V1 column, assembling it from '" ++
        field ++ "_*' columns"))
    return .ok (.assembly container)
  | none =>
    match t.table.entryOfColumn? field with
    | some entry => return .ok (passThrough entry.column)
    | none => t.unknown field .noFlatColumn

/-- A field of generation one over a source of generation two. -/
def resolveToFlat (t : Crosswalk) (field : String) : Noted (Except UnknownField Resolution) :=
  if t.table.isMapField field then do
    Noted.tell (.line .debug ("'" ++ field ++ "' is a bare map container, passing it through"))
    return .ok (.derived (.column field) [])
  else
    match t.table.entry? field with
    | some entry => return .ok (.derived entry.counterpart entry.counterpart.requirements)
    | none =>
      match t.table.splitColumn? field with
      | some (container, key) =>
        return .ok (.derived (.subscript (.column container.name) key)
          [subscriptText container.name key])
      | none => t.unknown field .noExpression

/-- How a column of the target layout comes from the source. -/
def resolve (t : Crosswalk) (field : String) : Noted (Except UnknownField Resolution) :=
  match t.source, t.target with
  | .one, .one | .two, .two => return .ok (passThrough field)
  | .one, .two => t.resolveToMap field
  | .two, .one => t.resolveToFlat field

end Crosswalk

end CostView
