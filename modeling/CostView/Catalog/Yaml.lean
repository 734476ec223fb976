import CostView.Catalog.Basic
import CostView.Yaml.Printer
import CostView.Yaml.Reader

/-!
# Catalogs as documents

A catalog is kept as a map with the one key `tables`, from names to columns and, for a view, the
text that created it.  Only tables are kept: the statements of a run and its refusals are not.
-/

namespace CostView

/-- The column that a value describes. -/
def ColumnInfo.ofYaml? (value : Yaml) : Option ColumnInfo := do
  let entries ← value.entries?
  let name ← (← Yaml.field? entries "name").string?
  let typeText ← (← Yaml.field? entries "type").string?
  return ⟨name, typeText⟩

/-- The table or view that a value describes. -/
def CatalogTable.ofYaml? (value : Yaml) : Option CatalogTable := do
  let entries ← value.entries?
  let columns ← (← (← Yaml.field? entries "columns").items?).mapM ColumnInfo.ofYaml?
  let definition ← Yaml.nullableField? entries "definition" Yaml.string?
  return ⟨columns, definition⟩

namespace Catalog

/-- The catalog that a value describes.  Of two tables of one name the last counts. -/
def ofYaml? (value : Yaml) : Option Catalog := do
  let entries ← value.entries?
  let named ← Yaml.fieldOr? entries "tables" Yaml.entries? []
  let tables ← named.mapM fun e => (CatalogTable.ofYaml? e.2).map fun table => (e.1, table)
  return ofTables (.ofList tables)

/-- The catalog that a text describes.  As everywhere, a document with an anchor, an alias, a tag, a
directive or a marked key is not read. -/
def parse? (text : String) : Option Catalog :=
  (Yaml.read? text).bind ofYaml?

/-- The lines of a column in a document. -/
def columnLines (c : ColumnInfo) : List String :=
  ["      - name: " ++ Yaml.quotedScalar c.name,
    "        type: " ++ Yaml.quotedScalar c.typeText]

/-- The lines of a table in a document. -/
def tableLines (name : String) (table : CatalogTable) : List String :=
  let columns := match table.columns with
    | [] => ["    columns: []"]
    | columns => "    columns:" :: columns.flatMap columnLines
  let definition := match table.definition with
    | none => []
    | some text => ["    definition: " ++ Yaml.quotedScalar text]
  ("  " ++ Yaml.quotedScalar name ++ ":") :: (columns ++ definition)

/-- The lines of a catalog as a document. -/
def lines (c : Catalog) : List String :=
  match c.tables.toList with
  | [] => ["tables: \x7b\x7d"]
  | tables => "tables:" :: tables.flatMap fun e => tableLines e.1 e.2

/-- A catalog as the text of a document. -/
def text (c : Catalog) : String :=
  String.join (c.lines.map (· ++ "\n"))

end Catalog

end CostView
