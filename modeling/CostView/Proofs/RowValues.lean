import CostView.Proofs.Rendering
import CostView.Proofs.Requirements
import CostView.Proofs.StateGrowth

/-!
# The values of a view in a row

A row gives each column of a table its value, and so does a view over that table, by what its
columns resolve to: a column of the source, the value of a map at a key, or a map with the values of
some columns.  Whatever does not exist is NULL.  The definition that a view is created with has the
same values, and that is where it matters which column a requirement asks for.
-/

namespace CostView

/-- What a row holds in a column: nothing, a scalar, or a map. -/
inductive Value (α : Type) where
  | null
  | scalar (a : α)
  | map (entries : String → Option (Value α))

/-- The value of a map at a key, which is NULL if the map lacks the key. -/
def Value.at {α : Type} : Value α → String → Value α
  | .map entries, key => (entries key).getD .null
  | _, _ => .null

/-- The values of a row by the names of their columns, in lower case. -/
abbrev Row (α : Type) := String → Value α

/-- The value of a column, whose name is read without regard to ASCII case. -/
def Row.column {α : Type} (row : Row α) (name : String) : Value α :=
  row (Text.lowered name)

/-- The value of an expression.  No column of a view resolves to a call or a literal. -/
def Expr.denote {α : Type} (row : Row α) : Expr → Value α
  | .column name | .quoted name => row.column name
  | .subscript container key => (container.denote row).at key
  | .call _ _ | .literal _ => .null

/-- The value of a column of a source, which is NULL if the source lacks the column. -/
def SourceTable.valueOf {α : Type} (t : SourceTable) (row : Row α) (name : String) : Value α :=
  if t.hasColumn name then row.column name else .null

namespace Compiler

variable {α : Type}

/-- The value of a resolution: that of its expression if all that it requires exists, or the map
that has the given keys, each with the value of its source column. -/
def denote (c : Compiler) (keys : Std.ExtTreeSet String) (row : Row α) : Resolution → Value α
  | .derived e requirements =>
    if requirements.all c.source.hasRequirement then e.denote row else .null
  | .assembly container => .map fun key =>
    if key ∈ keys then some (c.source.valueOf row (c.table.columnForKey container.name key))
    else none

/-- The value of a column of the view that exposes a state. -/
def valueOf (c : Compiler) (s : ViewState) (row : Row α) (column : String) : Value α :=
  match (c.crosswalk.resolve column).value with
  | .ok resolution => c.denote (s.keysOf column) row resolution
  | .error _ => .null

end Compiler

/-! ### Definitions of views -/

/-- The value of a key in an assembled map. -/
def Cell.denote {α : Type} (row : Row α) : Cell → Value α
  | .column name => row.column name
  | .null _ => .null

/-- The value of what a column holds. -/
def ColumnValue.denote {α : Type} (row : Row α) : ColumnValue → Value α
  | .expr e => e.denote row
  | .null _ => .null
  | .map cells => .map fun key => (cells.find? fun c => c.1 = key).map fun c => c.2.denote row

/-- The value of a column of a created view. -/
def ViewDefinition.valueOf {α : Type} (d : ViewDefinition) (row : Row α) (column : String) :
    Value α :=
  match d.items.find? fun item => item.column = column with
  | some item => item.value.denote row
  | none => .null

section

variable {α : Type} {c : Compiler} {s : ViewState} {row : Row α} {column key : String}
  {value : ColumnValue}

theorem denote_expr (name : String) : (Column.expr name).denote row = row.column name := by
  rw [Column.expr]
  split <;> rfl

/-- An assembled map has a cell for each of its keys. -/
theorem denote_assembled {cell : String → Cell} {keys : List String} (h : key ∈ keys) :
    ((ColumnValue.map (keys.map fun own => (own, cell own))).denote row).at key =
      (cell key).denote row := by
  have hfind : (keys.map fun own => (own, cell own)).find? (fun c => c.1 = key) =
      some (key, cell key) := by
    rw [List.find?_map]
    cases hfound : keys.find? ((fun c : String × Cell => decide (c.1 = key)) ∘
        fun own => (own, cell own)) with
    | none => simpa using List.find?_eq_none.mp hfound key h
    | some own =>
        have hown : own = key := by simpa using List.find?_some hfound
        rw [hown]
        rfl
  rw [ColumnValue.denote, Value.at]
  simp only [hfind]
  rfl

namespace Compiler

/-- A column that is derived is rendered with its value. -/
theorem Yields.denote_derived {e : Expr} {requirements : List String}
    (h : c.Yields s column (.derived e requirements) value) :
    value.denote row = c.denote (s.keysOf column) row (.derived e requirements) := by
  cases h with
  | expr complete =>
      have hall : requirements.all c.source.hasRequirement = true := List.all_eq_true.mpr complete
      rw [denote, if_pos hall]
      rfl
  | null missing _ _ =>
      have hall : ¬ requirements.all c.source.hasRequirement = true := by
        intro hcomplete
        obtain ⟨r, hr, hmissing⟩ := missing
        rw [List.all_eq_true.mp hcomplete r hr] at hmissing
        cases hmissing
      rw [denote, if_neg hall]
      rfl

/-- An assembled map has the value of the source column at each of its keys. -/
theorem denote_assembly_at {keys : Std.ExtTreeSet String} {container : MapField}
    (h : key ∈ keys) : (c.denote keys row (.assembly container)).at key =
      c.source.valueOf row (c.table.columnForKey container.name key) := by
  rw [denote, Value.at, if_pos h]
  rfl

/-- A column that is assembled is rendered with the value of each key whose source column is the one
that is asked for. -/
theorem Yields.denote_assembly {container : MapField}
    (h : c.Yields s column (.assembly container) value) (hkey : key ∈ s.keysOf column)
    (hname : c.source.hasRequirement (c.table.columnForKey container.name key) =
      c.source.hasColumn (c.table.columnForKey container.name key)) :
    (value.denote row).at key = (c.denote (s.keysOf column) row (.assembly container)).at key := by
  rw [denote_assembly_at hkey, SourceTable.valueOf, ← hname]
  rw [(yields_iff_of_keyed (Std.ExtTreeSet.ne_empty_of_mem hkey)).mp h]
  refine (denote_assembled (Std.ExtTreeSet.mem_toList.mpr hkey)).trans ?_
  split <;> rfl

theorem valueOf_of_resolve {resolution : Resolution}
    (h : (c.crosswalk.resolve column).value = .ok resolution) :
    c.valueOf s row column = c.denote (s.keysOf column) row resolution := by
  rw [valueOf, h]

/-- A created view has the values of the columns that it was rendered with. -/
theorem exists_valueOf {d : ViewDefinition} (h : (c.render s).value = .ok d)
    (hcolumn : s.hasColumn column = true) :
    ∃ value, c.Renders s column value ∧
      ∀ {α : Type} (row : Row α), d.valueOf row column = value.denote row := by
  obtain ⟨-, -, hitems⟩ := value_render_eq_ok_iff.mp h
  obtain ⟨item, hitem, hname, -⟩ := exists_item hitems (ViewState.mem_columnNames.mpr hcolumn)
  cases hfound : d.items.find? fun item => item.column = column with
  | none => simpa [hname] using List.find?_eq_none.mp hfound item hitem
  | some first =>
      have hfirst : first.column = column := by simpa using List.find?_some hfound
      -- The item that is found need not be that one, but it belongs to a column of that name.
      obtain ⟨other, -, hother, hrenders⟩ :=
        exists_column hitems (List.mem_of_find?_eq_some hfound)
      obtain rfl : other = column := hother.symm.trans hfirst
      refine ⟨first.value, hrenders, fun row => ?_⟩
      rw [ViewDefinition.valueOf, hfound]

end Compiler

end
end CostView
