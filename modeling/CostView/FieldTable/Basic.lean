import CostView.Expression.Printer
import CostView.Generation
import CostView.Identifier
import CostView.SqlType
import Std.Data.ExtTreeSet

/-!
# The field equivalence table

The table pairs each column of generation one with the expression of generation two that has the
same value: a column, or one key of a map column.  It is read in both directions, so no column and
no key may occur twice on its side.
-/

namespace CostView

/-- A map column of generation two and the type of its values. -/
structure MapField where
  name : String
  valueType : SqlType
deriving DecidableEq, Repr

/-- The type of a map column. -/
def MapField.type (m : MapField) : SqlType :=
  .map m.valueType

/-- The column of generation one that holds a key no entry speaks of. -/
def flatColumn (container key : String) : String :=
  container ++ "_" ++ key

/-- A column of generation one and the expression of generation two with the same value. -/
structure FieldEntry where
  column : String
  counterpart : Expr
  type : SqlType
  isDefault : Bool
deriving DecidableEq, Repr

/-- The equivalences between the columns of the two generations. -/
structure FieldTable where
  version : String
  mapFields : List MapField
  entries : List FieldEntry
deriving DecidableEq, Repr

namespace FieldTable

/-- The map column of a given name; of several the first. -/
def mapField? (t : FieldTable) (name : String) : Option MapField :=
  t.mapFields.find? fun m => m.name = name

/-- Whether a name is that of a map column. -/
def isMapField (t : FieldTable) (name : String) : Bool :=
  (t.mapField? name).isSome

theorem isMapField_iff_exists_mem {t : FieldTable} {name : String} :
    t.isMapField name = true ↔ ∃ m ∈ t.mapFields, m.name = name := by
  simp [isMapField, mapField?]

theorem of_mapField? {t : FieldTable} {name : String} {m : MapField}
    (h : t.mapField? name = some m) : m ∈ t.mapFields ∧ m.name = name := by
  have hname : m.name = name := by
    simpa using List.find?_some h
  exact ⟨List.mem_of_find?_eq_some h, hname⟩

/-- The entry of a column of generation one. -/
def entry? (t : FieldTable) (column : String) : Option FieldEntry :=
  t.entries.find? fun e => e.column = column

/-- The entry whose counterpart is the given column of generation two. -/
def entryOfColumn? (t : FieldTable) (name : String) : Option FieldEntry :=
  t.entries.find? fun e => e.counterpart.column? = some name

/-- The entry whose counterpart is the given key of a map column. -/
def entryOfKey? (t : FieldTable) (container key : String) : Option FieldEntry :=
  t.entries.find? fun e => e.counterpart.subscript? = some (container, key)

/-- The column of generation one that holds the value of a key. -/
def columnForKey (t : FieldTable) (container key : String) : String :=
  match t.entryOfKey? container key with
  | some e => e.column
  | none => flatColumn container key

/-- The key that is left of a column name when it starts with the name of a container and an
underscore. -/
def keyAfter? (container name : String) : Option String :=
  match Text.dropLeading? (container.toList ++ ['_']) name.toList with
  | some (c :: key) => some (String.ofList (c :: key))
  | _ => none

/-- The map column with the longest name, the last of several. -/
def longest? : List (MapField × String) → Option (MapField × String)
  | [] => none
  | c :: rest =>
    match longest? rest with
    | some d => if c.1.name.length ≤ d.1.name.length then some d else some c
    | none => some c

/-- A column name read as the name of a map column, an underscore and a key.  The longest
container that fits is taken. -/
def splitColumn? (t : FieldTable) (name : String) : Option (MapField × String) :=
  longest? (t.mapFields.filterMap fun m => (keyAfter? m.name name).map fun key => (m, key))

/-- The type that the table declares for a field of a generation. -/
def declaredType? (t : FieldTable) (g : Generation) (name : String) : Option SqlType :=
  match g with
  | .one =>
    match t.entry? name with
    | some e => some e.type
    | none => (t.splitColumn? name).map fun p => p.1.valueType
  | .two =>
    match t.mapField? name with
    | some m => some m.type
    | none => (t.entryOfColumn? name).map fun e => e.type

/-- The fields of a generation that are exposed when none is asked for: those of the default
entries and, in generation two, every map column. -/
def defaultFields (t : FieldTable) (g : Generation) : Std.ExtTreeSet String :=
  let defaults := t.entries.filter fun e => e.isDefault
  match g with
  | .one => .ofList (defaults.map fun e => e.column)
  | .two => .ofList
    ((defaults.map fun e => (e.counterpart.column?).getD e.counterpart.sql) ++
      t.mapFields.map fun m => m.name)

/-- Why an entry does not belong into a table. -/
inductive EntryFault where
  | unreadable (error : IdentifierError)
  | namedLikeMap
  | duplicateColumn
  | unknownMap (container : String)
  | duplicateKey
  | duplicateCounterpart
  | noCounterpart
deriving DecidableEq, Repr

/-- The description of a fault. -/
def EntryFault.description : EntryFault → String
  | .unreadable error => error.message
  | .namedLikeMap => "V1 name collides with a map container"
  | .duplicateColumn => "duplicate V1 name"
  | .unknownMap container => "'" ++ container ++ "' is not a known map container"
  | .duplicateKey => "duplicate V2 map key"
  | .duplicateCounterpart => "duplicate V2 column"
  | .noCounterpart => "V2 side must be a column or a map subscript"

/-- An entry that does not belong into its table. -/
structure EntryError where
  column : String
  fault : EntryFault
deriving DecidableEq, Repr

/-- The message about an entry that does not belong into its table. -/
def EntryError.message (e : EntryError) : String :=
  "Invalid field equivalence table entry '" ++ e.column ++ "': " ++ e.fault.description

/-- An entry as it is written down.  Without an expression the column keeps its name. -/
structure EntryText where
  column : String
  expression : Option String
  type : String
  isDefault : Bool
deriving DecidableEq, Repr

/-- A table as it is written down. -/
structure TableText where
  version : String
  mapFields : List (String × String)
  entries : List EntryText
deriving DecidableEq, Repr

/-- The map columns of a written table. -/
def TableText.mapColumns (text : TableText) : List MapField :=
  text.mapFields.map fun m => ⟨m.1, SqlType.parse m.2⟩

/-- The entry that a written one stands for. -/
def EntryText.read (e : EntryText) : Except EntryError FieldEntry :=
  match readIdentifier (e.expression.getD e.column) with
  | .ok counterpart => .ok ⟨e.column, counterpart, SqlType.parse e.type, e.isDefault⟩
  | .error error => .error ⟨e.column, .unreadable error⟩

end FieldTable

end CostView
