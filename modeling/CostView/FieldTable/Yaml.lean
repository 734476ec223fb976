import CostView.FieldTable.Indexed
import CostView.Yaml.Reader

/-!
# The equivalence table as a document

A table is written as a map with the keys `version`, `map_fields` and `fields`.  The documents are
those that `Yaml.read?` reads.  Anchors, aliases, tags, directives and marked keys are not among
them, but whatever table is written with these can also be written without.
-/

namespace CostView.FieldTable

/-- A map column as it is written down. -/
def mapFieldText? (value : Yaml) : Option (String × String) := do
  let entries ← value.entries?
  let name ← (← Yaml.field? entries "name").string?
  let valueType ← (← Yaml.field? entries "value_type").string?
  return (name, valueType)

/-- An entry as it is written down. -/
def entryText? (value : Yaml) : Option EntryText := do
  let entries ← value.entries?
  let column ← (← Yaml.field? entries "v1").string?
  let expression ← Yaml.nullableField? entries "v2" Yaml.string?
  let type ← (← Yaml.field? entries "type").string?
  let isDefault ← Yaml.fieldOr? entries "default" Yaml.bool? false
  return ⟨column, expression, type, isDefault⟩

/-- A table as it is written down, if the document has the shape of one. -/
def text? (value : Yaml) : Option TableText := do
  let entries ← value.entries?
  let version ← (← Yaml.field? entries "version").string?
  let mapFields ← (← (← Yaml.field? entries "map_fields").items?).mapM mapFieldText?
  let fields ← (← (← Yaml.field? entries "fields").items?).mapM entryText?
  return ⟨version, mapFields, fields⟩

/-- Why a document gives no table. -/
inductive LoadError where
  | shape
  | entry (error : EntryError)
deriving DecidableEq, Repr

/-- The table that a document holds. -/
def ofYaml (value : Yaml) : Except LoadError FieldTable :=
  match text? value with
  | none => .error .shape
  | some text =>
    match IndexedTable.build text with
    | .ok table => .ok table.toFieldTable
    | .error error => .error (.entry error)

/-- The table that the text of a document holds.  A document with an anchor, an alias, a tag, a
directive or a marked key is not read, so it counts as one of the wrong shape. -/
def parse (text : String) : Except LoadError FieldTable :=
  match Yaml.read? text with
  | some value => ofYaml value
  | none => .error .shape

end CostView.FieldTable
