import CostView.Proofs.BuiltInTable
import CostView.Proofs.DefinitionText
import CostView.Proofs.Rendering
import CostView.Proofs.Resolutions
import CostView.Proofs.StateGrowth

/-!
# The keys in the text of a rendered view

Over the built-in table a view is of one of two kinds.  If its source is of generation one and it is
of generation two, its maps are assembled, and each map column reads back the keys that it has.  In
every other case nothing is assembled, and no keys are read back.
-/

namespace CostView

open FieldTable (builtIn)
open MapKeys (Inert parse? mergeChunks)

/-- The NULL of any type is inert. -/
theorem SqlType.inert_nullLiteral (type : SqlType) {literal : String}
    (h : type.nullLiteral? = some literal) : Inert literal.toList := by
  have hall : ∀ t ∈ [SqlType.varchar, .double, .timestamp, .map .varchar],
      ∀ l ∈ t.nullLiteral?.toList, MapKeys.isQuiet l.toList = true ∧ ']' ∉ l.toList := by
    decide +kernel
  have hknown (t : SqlType) (ht : t ∈ [SqlType.varchar, .double, .timestamp, .map .varchar])
      (hliteral : t.nullLiteral? = some literal) : Inert literal.toList := by
    obtain ⟨hquiet, hbracket⟩ := hall t ht literal (by simp [hliteral])
    exact ⟨hquiet, hbracket⟩
  cases type with
  | varchar => exact hknown .varchar (by decide) h
  | double => exact hknown .double (by decide) h
  | timestamp => exact hknown .timestamp (by decide) h
  | map value => exact hknown (.map .varchar) (by decide) h
  | other text => cases h

theorem inert_as : Inert (" AS " : String).toList := .ofList rfl

namespace Compiler

variable {c : Compiler} {s : ViewState} {column : String}

/-! ### Names -/

theorem mem_viewName {a : Char} (h : a ∈ c.viewName.toList) :
    a ∈ c.source.name.toList ∨ a ∈ c.target.viewName.toList := by
  rw [viewName, String.toList_append, List.mem_append] at h
  refine h.imp_left fun hqualifier => ?_
  rw [qualifier, String.toList_ofList, List.mem_reverse] at hqualifier
  exact List.mem_reverse.mp ((List.dropWhile_suffix _).subset hqualifier)

theorem notMem_viewName (h : Settings.isTableName c.source.name = true) :
    ']' ∉ c.viewName.toList ∧ '(' ∉ c.viewName.toList := by
  have htarget : ']' ∉ c.target.viewName.toList ∧ '(' ∉ c.target.viewName.toList := by
    cases c.target <;> decide +kernel
  obtain ⟨hbracket, hparen⟩ := Settings.notMem_of_isTableName h
  exact ⟨fun hmem => (mem_viewName hmem).elim hbracket htarget.1,
    fun hmem => (mem_viewName hmem).elim hparen htarget.2⟩

/-- The name of the view is a single word. -/
theorem isBlank_of_mem_viewName (h : Settings.isTableName c.source.name = true) {a : Char}
    (ha : a ∈ c.viewName.toList) : Text.isBlank a = false := by
  rcases mem_viewName ha with hsource | htarget
  · rcases Settings.of_mem_tableName h hsource with rfl | hname
    · rfl
    · exact Settings.isBlank_of_isNameChar hname
  · have hnone (g : Generation) : g.viewName.toList.any Text.isBlank = false := by
      cases g <;> decide +kernel
    simpa using List.any_eq_false.mp (hnone c.target) a htarget

theorem viewName_ne_nil : c.viewName.toList ≠ [] := by
  have htarget : c.target.viewName.toList ≠ [] := by
    cases c.target <;> decide +kernel
  rw [viewName, String.toList_append]
  exact List.append_ne_nil_of_right_ne_nil _ htarget

/-! ### Assembled views -/

/-- A compiler over the built-in table whose views are assembled: out of a source of generation one,
in the layout of generation two. -/
structure IntoMaps (c : Compiler) : Prop where
  table : c.table = builtIn
  source : c.source.generation = .one
  target : c.target = .two

/-- Such a compiler whose source has a plain name, so that its statements can be read. -/
structure Assembles (c : Compiler) : Prop extends c.IntoMaps where
  name : Settings.isTableName c.source.name = true

/-- A column of an assembled view is a map column, or it keeps the name of its source column. -/
theorem Assembles.resolves (h : c.Assembles) {resolution : Resolution}
    (hresolve : (c.crosswalk.resolve column).value = .ok resolution) :
    (∃ m, builtIn.mapField? column = some m ∧ resolution = .assembly m) ∨
      (builtIn.mapField? column = none ∧ (∃ e, builtIn.entryOfColumn? column = some e) ∧
        resolution = Crosswalk.passThrough column) := by
  rw [Crosswalk.value_resolve_toMap_eq_ok_iff h.source h.target] at hresolve
  simp only [crosswalk, h.table] at hresolve
  rcases hresolve with hmap | ⟨hnone, e, he, rfl⟩
  · exact Or.inl hmap
  · refine Or.inr ⟨hnone, ⟨e, he⟩, ?_⟩
    obtain ⟨-, type, -, isDefault, rfl⟩ := FieldTable.eq_same_of_entryOfColumn? he
    rfl

/-- No value of an assembled map holds a bracket. -/
theorem notMem_assembledCell {m : MapField} (hm : m ∈ FieldTable.builtInMapFields) {key : String}
    (hkey : ']' ∉ key.toList) (isThere : String → Bool) :
    ']' ∉ (assembledCell builtIn isThere m key).2.text.toList := by
  obtain ⟨hplain, -, hbasic⟩ := FieldTable.mapField_of_mem hm
  have hname := (Column.notMem_of_not_needsQuoting hplain).1
  rw [assembledCell, FieldTable.columnForKey_builtIn]
  split
  · exact Column.notMem_reference (by decide) (FieldTable.notMem_flatColumn hname hkey)
  · cases hliteral : m.valueType.nullLiteral? with
    | none => exact (SqlType.inert_nullLiteral .varchar rfl).unbracketed
    | some literal => exact (SqlType.inert_nullLiteral _ hliteral).unbracketed

/-- A value that is no map, given to a plain column. -/
theorem legible_of_unmapped {value : ColumnValue} (hcolumn : Column.needsQuoting column = false)
    (hvalue : ∀ cells, value ≠ .map cells) (htext : Inert value.text.toList) :
    SelectItem.Legible ⟨column, value⟩ := by
  obtain ⟨hbracket, hparen⟩ := Column.notMem_of_not_needsQuoting hcolumn
  have halias : Inert (Column.aliasText column).toList :=
    .of_notMem ⟨Column.notMem_aliasText (by decide) hbracket,
      Column.notMem_aliasText (by decide) hparen⟩
  refine .inert hvalue ?_
  rw [SelectItem.text, String.toList_append, String.toList_append]
  exact (htext.append inert_as).append halias

section

variable {value : ColumnValue}

/-- A map column without keys is the NULL of a map, and one with keys holds them all. -/
theorem Assembles.item_map (h : c.Assembles) (hkeys : ∀ key ∈ s.keysOf column, ']' ∉ key.toList)
    {m : MapField} (hm : builtIn.mapField? column = some m)
    (hyields : c.Yields s column (.assembly m) value) :
    SelectItem.Legible ⟨column, value⟩ ∧ SelectItem.keysFor? column ⟨column, value⟩ =
      if s.keysOf column = ∅ then none else some (s.keysOf column).toList := by
  obtain ⟨hmem, hmname⟩ := FieldTable.of_mapField? hm
  obtain ⟨hplain, hinsensitive, -⟩ := FieldTable.mapField_of_mem hmem
  rw [hmname] at hplain hinsensitive
  cases hyields with
  | noKeys keyless =>
      have hunmapped : ∀ cells, ColumnValue.null SqlType.nullMap ≠ .map cells := by simp
      have hnull : Inert (ColumnValue.null SqlType.nullMap).text.toList :=
        SqlType.inert_nullLiteral (.map .varchar) rfl
      refine ⟨legible_of_unmapped hplain hunmapped hnull, ?_⟩
      rw [if_pos keyless]
      rfl
  | map keyed =>
      have hnil : (s.keysOf column).toList ≠ [] := by
        simpa using keyed
      refine ⟨.map hplain hinsensitive (by simpa using hnil) ?_ ?_, ?_⟩
      · intro cell hcell
        obtain ⟨key, hkey, rfl⟩ := List.mem_map.mp hcell
        exact hkeys key (Std.ExtTreeSet.mem_toList.mp hkey)
      · intro cell hcell
        obtain ⟨key, hkey, rfl⟩ := List.mem_map.mp hcell
        rw [h.table]
        exact notMem_assembledCell hmem (hkeys key (Std.ExtTreeSet.mem_toList.mp hkey)) _
      · rw [SelectItem.keysFor?_map, if_pos rfl, if_neg keyed, List.map_map]
        exact congrArg some (List.map_id _)

/-- A column that keeps its name is that of the source or a NULL, and gives no keys. -/
theorem item_kept (hplain : Column.needsQuoting column = false)
    (hyields : c.Yields s column (Crosswalk.passThrough column) value) :
    SelectItem.Legible ⟨column, value⟩ ∧ SelectItem.keysFor? column ⟨column, value⟩ = none := by
  obtain ⟨hbracket, hparen⟩ := Column.notMem_of_not_needsQuoting hplain
  rw [Crosswalk.passThrough] at hyields
  cases hyields with
  | expr _ =>
      refine ⟨legible_of_unmapped hplain (by simp) (.of_notMem ?_), rfl⟩
      rw [ColumnValue.text, Expr.toList_sql]
      exact ⟨Column.notMem_print_expr (by decide) hbracket,
        Column.notMem_print_expr (by decide) hparen⟩
  | null _ _ rendered =>
      exact ⟨legible_of_unmapped hplain (by simp) (SqlType.inert_nullLiteral _ rendered), rfl⟩

/-- What a column of an assembled view is rendered as, and how its keys stand in the text. -/
theorem Assembles.item (h : c.Assembles) (hkeys : ∀ key ∈ s.keysOf column, ']' ∉ key.toList)
    {item : SelectItem} (hitem : c.IsItem s column item) :
    item.Legible ∧ item.column = column ∧
      ((∃ m, builtIn.mapField? column = some m ∧ item.keysFor? column =
          if s.keysOf column = ∅ then none else some (s.keysOf column).toList) ∨
        (builtIn.mapField? column = none ∧ item.keysFor? column = none ∧
          ∃ e, builtIn.entryOfColumn? column = some e)) := by
  obtain ⟨itemColumn, value⟩ := item
  obtain ⟨hname, resolution, hresolve, hyields⟩ := hitem
  obtain rfl : itemColumn = column := hname
  change c.Yields s itemColumn resolution value at hyields
  rcases h.resolves hresolve with ⟨m, hm, rfl⟩ | ⟨hnone, ⟨e, he⟩, rfl⟩
  · obtain ⟨hlegible, hgives⟩ := h.item_map hkeys hm hyields
    exact ⟨hlegible, rfl, Or.inl ⟨m, hm, hgives⟩⟩
  · obtain ⟨hplain, -⟩ := FieldTable.eq_same_of_entryOfColumn? he
    obtain ⟨hlegible, hgives⟩ := item_kept hplain hyields
    exact ⟨hlegible, rfl, Or.inr ⟨hnone, hgives, e, he⟩⟩

end

section

variable {d : ViewDefinition} {keys : List String}

/-- An item gives keys to the map column that it is of, if that has any, and they are its keys. -/
theorem Assembles.keysFor?_item_eq_some_iff (h : c.Assembles) {other : String}
    (hkeys : ∀ key ∈ s.keysOf other, ']' ∉ key.toList) {item : SelectItem}
    (hitem : c.IsItem s other item) :
    item.keysFor? column = some keys ↔ other = column ∧ builtIn.isMapField column = true ∧
      s.keysOf column ≠ ∅ ∧ keys = (s.keysOf column).toList := by
  obtain ⟨-, hown, hvalue⟩ := h.item hkeys hitem
  constructor
  · intro hgives
    obtain rfl : other = column := hown ▸ SelectItem.column_of_keysFor? hgives
    rcases hvalue with ⟨m, hm, hkeysFor⟩ | ⟨-, hnone, -⟩
    · rw [hkeysFor] at hgives
      split at hgives
      · cases hgives
      · next hkeyed =>
          exact ⟨rfl, FieldTable.isMapField_iff.mpr ⟨m, hm⟩, hkeyed, (Option.some.inj hgives).symm⟩
    · rw [hnone] at hgives
      cases hgives
  · rintro ⟨rfl, hmap, hkeyed, rfl⟩
    rcases hvalue with ⟨m, hm, hkeysFor⟩ | ⟨hnone, -⟩
    · rw [hkeysFor, if_neg hkeyed]
    · rw [FieldTable.isMapField, hnone] at hmap
      cases hmap

/-- The items of an assembled view give to each of its map columns the keys of the column. -/
theorem Assembles.exists_keysFor?_iff (h : c.Assembles)
    (hkeys : ∀ column, ∀ key ∈ s.keysOf column, ']' ∉ key.toList)
    (hrender : (c.render s).value = .ok d) :
    (∃ item ∈ d.items, item.keysFor? column = some keys) ↔
      s.hasColumn column = true ∧ builtIn.isMapField column = true ∧ s.keysOf column ≠ ∅ ∧
        keys = (s.keysOf column).toList := by
  obtain ⟨-, -, hitems⟩ := value_render_eq_ok_iff.mp hrender
  constructor
  · rintro ⟨item, hitem, hgives⟩
    obtain ⟨other, hother, hrelated⟩ := exists_column hitems hitem
    obtain ⟨rfl, hgiven⟩ := (h.keysFor?_item_eq_some_iff (hkeys other) hrelated).mp hgives
    exact ⟨ViewState.mem_columnNames.mp hother, hgiven⟩
  · rintro ⟨hcolumn, hgiven⟩
    obtain ⟨item, hitem, hrelated⟩ := exists_item hitems (ViewState.mem_columnNames.mpr hcolumn)
    exact ⟨item, hitem, (h.keysFor?_item_eq_some_iff (hkeys column) hrelated).mpr ⟨rfl, hgiven⟩⟩

theorem Assembles.legible (h : c.Assembles)
    (hkeys : ∀ column, ∀ key ∈ s.keysOf column, ']' ∉ key.toList)
    (hrender : (c.render s).value = .ok d) : ∀ item ∈ d.items, item.Legible := by
  intro item hitem
  obtain ⟨-, -, hitems⟩ := value_render_eq_ok_iff.mp hrender
  obtain ⟨other, -, hrelated⟩ := exists_column hitems hitem
  exact (h.item (hkeys other) hrelated).1

/-- The text gives to a map column what the first of the items does, and all that do agree. -/
theorem Assembles.parse?_eq_some_iff (h : c.Assembles)
    (hkeys : ∀ column, ∀ key ∈ s.keysOf column, ']' ∉ key.toList)
    (hrender : (c.render s).value = .ok d) (hmap : builtIn.isMapField column = true) :
    parse? (mergeChunks d.sql) column = some keys ↔
      s.hasColumn column = true ∧ s.keysOf column ≠ ∅ ∧ keys = (s.keysOf column).toList := by
  obtain ⟨hview, hsource, -⟩ := value_render_eq_ok_iff.mp hrender
  rw [MapKeys.parse?_mergeChunks_sql (FieldTable.plain_of_isMapField hmap)
    (hview ▸ notMem_viewName h.name) (hsource ▸ Settings.notMem_of_isTableName h.name)
    (h.legible hkeys hrender)]
  have hgiven {own : List String} : (∃ item ∈ d.items, item.keysFor? column = some own) ↔ _ :=
    h.exists_keysFor?_iff hkeys hrender
  constructor
  · intro hfound
    obtain ⟨hcolumn, -, hrest⟩ := hgiven.mp (List.exists_of_findSome?_eq_some hfound)
    exact ⟨hcolumn, hrest⟩
  · rintro ⟨hcolumn, hrest⟩
    obtain ⟨item, hitem, hgives⟩ := hgiven.mpr ⟨hcolumn, hmap, hrest⟩
    have hsome : (d.items.findSome? (SelectItem.keysFor? column)).isSome = true :=
      List.findSome?_isSome_iff.mpr ⟨item, hitem, hgives ▸ rfl⟩
    obtain ⟨first, hfirst⟩ := Option.isSome_iff_exists.mp hsome
    obtain ⟨-, -, -, rfl⟩ := hgiven.mp (List.exists_of_findSome?_eq_some hfirst)
    rw [hfirst, hrest.2]

/-- The keys that the text of an assembled view gives to a map column are those of the column. -/
theorem Assembles.exists_parse?_iff (h : c.Assembles) {key : String}
    (hkeys : ∀ column, ∀ key ∈ s.keysOf column, ']' ∉ key.toList)
    (hrender : (c.render s).value = .ok d) (hmap : builtIn.isMapField column = true) :
    (∃ keys, parse? (mergeChunks d.sql) column = some keys ∧ key ∈ keys) ↔
      s.hasColumn column = true ∧ key ∈ s.keysOf column := by
  simp only [h.parse?_eq_some_iff hkeys hrender hmap]
  constructor
  · rintro ⟨keys, ⟨hcolumn, -, rfl⟩, hkey⟩
    exact ⟨hcolumn, Std.ExtTreeSet.mem_toList.mp hkey⟩
  · rintro ⟨hcolumn, hkey⟩
    exact ⟨_, ⟨hcolumn, Std.ExtTreeSet.ne_empty_of_mem hkey, rfl⟩,
      Std.ExtTreeSet.mem_toList.mpr hkey⟩

end

/-! ### Views without assembled maps -/

/-- A compiler over the built-in table whose views hold no assembled maps. -/
structure Passes (c : Compiler) : Prop where
  table : c.table = builtIn
  flat : c.source.generation = .two ∨ c.target = .one
  name : Settings.isTableName c.source.name = true

/-- An expression whose text has no bracket, but perhaps one at its end. -/
def EndsFlat (e : Expr) : Prop :=
  ∃ body, ']' ∉ body ∧ (e.print = body ∨ e.print = body ++ [']'])

theorem endsFlat_expr {name : String} (h : ']' ∉ name.toList) : EndsFlat (Column.expr name) :=
  ⟨_, Column.notMem_print_expr (by decide) h, Or.inl rfl⟩

theorem endsFlat_subscript {name key : String} (hname : ']' ∉ name.toList)
    (hkey : ']' ∉ key.toList) : EndsFlat (.subscript (.column name) key) := by
  refine ⟨name.toList ++ '[' :: Text.Quoted.enclose '\'' key.toList, ?_, Or.inr ?_⟩
  · have hquoted : ']' ∉ Text.Quoted.enclose '\'' key.toList := notMem_enclose (by decide) hkey
    simp [hname, hquoted]
  · simp [Expr.print]

/-- No expression that a column resolves to has a bracket, but at its end. -/
theorem Passes.resolves (h : c.Passes) (hcolumn : ']' ∉ column.toList) {resolution : Resolution}
    (hresolve : (c.crosswalk.resolve column).value = .ok resolution) :
    ∃ e requirements, resolution = .derived e requirements ∧ EndsFlat e := by
  by_cases hsame : c.source.generation = c.target
  · rw [Crosswalk.value_resolve_same hsame] at hresolve
    obtain rfl := Except.ok.inj hresolve
    exact ⟨_, _, rfl, endsFlat_expr hcolumn⟩
  · -- Of different generations, only those of a view out of maps are left.
    have hkinds : c.source.generation = .two ∧ c.target = .one := by
      rcases h.flat with hsource | htarget
      · cases htarget : c.target with
        | one => exact ⟨hsource, rfl⟩
        | two => exact absurd (hsource.trans htarget.symm) hsame
      · cases hsource : c.source.generation with
        | one => exact absurd (hsource.trans htarget.symm) hsame
        | two => exact ⟨rfl, htarget⟩
    rw [Crosswalk.value_resolve_toFlat_eq_ok_iff hkinds.1 hkinds.2] at hresolve
    simp only [crosswalk, h.table] at hresolve
    rcases hresolve with ⟨-, rfl⟩ | ⟨-, ⟨e, he, rfl⟩ | ⟨-, m, key, hsplit, rfl⟩⟩
    · refine ⟨_, _, rfl, column.toList, hcolumn, Or.inl ?_⟩
      rw [Expr.print]
    · refine ⟨_, _, rfl, ?_⟩
      have hregular := (FieldTable.regular_of_entry? he).1
      cases hregular with
      | same plain _ => exact endsFlat_expr (Column.notMem_of_not_needsQuoting plain).1
      | keyed known plainKey _ =>
          have hplain := FieldTable.plain_of_isMapField known
          exact endsFlat_subscript (Column.notMem_of_not_needsQuoting hplain).1
            (Column.notMem_of_not_needsQuoting plainKey).1
    · obtain ⟨-, rfl⟩ := FieldTable.of_splitColumn? hsplit
      simp only [flatColumn, String.toList_append, List.mem_append, not_or] at hcolumn
      exact ⟨_, _, rfl, endsFlat_subscript hcolumn.1.1 hcolumn.2⟩

theorem Passes.item (h : c.Passes) (hcolumn : ']' ∉ column.toList) {item : SelectItem}
    (hitem : c.IsItem s column item) : item.Flat := by
  obtain ⟨itemColumn, value⟩ := item
  obtain ⟨hname, resolution, hresolve, hyields⟩ := hitem
  obtain rfl : itemColumn = column := hname
  obtain ⟨e, requirements, rfl, body, hbody, hprint⟩ := h.resolves hcolumn hresolve
  refine ⟨hcolumn, ?_⟩
  change c.Yields s itemColumn _ value at hyields
  cases hyields with
  | expr _ =>
      refine ⟨body, hbody, ?_⟩
      rw [ColumnValue.text, Expr.toList_sql]
      exact hprint
  | null _ _ rendered =>
      exact ⟨_, (SqlType.inert_nullLiteral _ rendered).unbracketed, Or.inl rfl⟩

/-- The text of a view without assembled maps gives no keys to any column. -/
theorem Passes.parse?_eq_none (h : c.Passes) {d : ViewDefinition}
    (hcolumns : ∀ column, s.hasColumn column = true → ']' ∉ column.toList)
    (hrender : (c.render s).value = .ok d) (column : String) :
    parse? (mergeChunks d.sql) column = none := by
  obtain ⟨hview, hsource, hitems⟩ := value_render_eq_ok_iff.mp hrender
  refine MapKeys.parse?_mergeChunks_of_flat (hview ▸ notMem_viewName h.name)
    (hsource ▸ Settings.notMem_of_isTableName h.name) fun item hitem => ?_
  obtain ⟨other, hother, hrelated⟩ := exists_column hitems hitem
  exact h.item (hcolumns other (ViewState.mem_columnNames.mp hother)) hrelated

end Compiler
end CostView
