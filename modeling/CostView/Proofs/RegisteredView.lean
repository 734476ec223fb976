import CostView.Proofs.Compilation
import CostView.Proofs.RenderedText
import Mathlib.Data.List.Basic

/-!
# Reading a registered view back

A view that was created is registered in the catalog with its columns, the texts of their types and
the statement that created it, and that is all that is left of its state.  For the two kinds of
views over the built-in table this file says what introspection recovers from it: everything from an
assembled view, and everything but types from a view without assembled maps.
-/

namespace CostView

open FieldTable (builtIn)
open MapKeys (mergeChunks)

/-! ### The catalog in memory -/

namespace Catalog

variable {catalog : Catalog} {view : String} {table : CatalogTable}

theorem result_listColumns_of_some (h : catalog.tables[view]? = some table) :
    (engine.listColumns view).result catalog = (.ok table.columns, catalog) := by
  unfold engine
  rw [Action.result_bind, Action.result_get]
  simp [h]

theorem result_listColumns_of_none (h : catalog.tables[view]? = none) :
    (engine.listColumns view).result catalog = (.error (.notFound view), catalog) := by
  unfold engine
  rw [Action.result_bind, Action.result_get]
  simp [h]

theorem result_definitionText_of_some {text : String} (h : catalog.tables[view]? = some table)
    (htext : table.definition = some text) :
    (engine.definitionText view).result catalog = (.ok text, catalog) := by
  unfold engine
  rw [Action.result_bind, Action.result_get]
  simp [h, htext]

theorem result_definitionText_snd :
    ((engine.definitionText view).result catalog).2 = catalog := by
  unfold engine
  rw [Action.result_bind, Action.result_get]
  cases (catalog.tables[view]?).bind CatalogTable.definition <;> rfl

/-- A statement is refused, or it is executed. -/
theorem result_execute (sql : String) :
    (engine.execute sql).result catalog =
      match catalog.refusal with
      | some message => (.error (.rejected message), catalog)
      | none => (.ok (), catalog.afterStatement sql) := by
  unfold engine
  rw [Action.result_bind, Action.result_get]
  cases catalog.refusal <;> rfl

theorem result_execute_eq_ok_iff {sql : String} {later : Catalog} :
    (engine.execute sql).result catalog = (.ok (), later) ↔
      catalog.refusal = none ∧ catalog.afterStatement sql = later := by
  rw [result_execute]
  cases catalog.refusal with
  | none => simp
  | some message => simp

@[simp] theorem refusal_afterStatement (sql : String) :
    (catalog.afterStatement sql).refusal = catalog.refusal := by
  unfold afterStatement
  cases createdView? sql <;> rfl

end Catalog

namespace ViewState

variable {s : ViewState} {column key : String} {catalog : Catalog} {table : FieldTable}
  {view : String}

/-- Reading a view back leaves the catalog alone. -/
theorem result_introspect_snd :
    ((introspect Catalog.engine table view).result catalog).2 = catalog := by
  rw [result_introspect]
  cases htable : catalog.tables[view]? with
  | none => rw [Catalog.result_listColumns_of_none htable]
  | some registered =>
      rw [Catalog.result_listColumns_of_some htable]
      dsimp only
      split
      · rfl
      · have hcatalog : ((Catalog.engine.definitionText view).result catalog).2 = catalog :=
          Catalog.result_definitionText_snd
        rcases hresult : (Catalog.engine.definitionText view).result catalog with ⟨_ | text, later⟩
        · rw [hresult] at hcatalog
          exact hcatalog
        · rw [hresult] at hcatalog
          exact hcatalog

/-- A view that does not exist exposes nothing. -/
theorem introspect_of_missing (h : catalog.tables[view]? = none) :
    ((introspect Catalog.engine table view).result catalog).1 = empty := by
  rw [result_introspect, Catalog.result_listColumns_of_none h]

/-- A registered view exposes its columns and the keys that its text gives to its map columns. -/
theorem introspect_of_registered {columns : List ColumnInfo} {sql : String}
    (h : catalog.tables[view]? = some ⟨columns, some sql⟩) :
    ((introspect Catalog.engine table view).result catalog).1 =
      withKeys (mergeChunks sql) (reported columns) (mapColumns table columns) := by
  rw [result_introspect, Catalog.result_listColumns_of_some h]
  dsimp only
  split
  · next hnone =>
      rw [hnone]
      rfl
  · rw [Catalog.result_definitionText_of_some h rfl]

/-- The columns of a state as they are registered. -/
def infos (s : ViewState) : List ColumnInfo :=
  s.columnInfos.map fun e => ⟨e.1, e.2⟩

theorem mem_infos {info : ColumnInfo} :
    info ∈ s.infos ↔ ∃ slot, s.columns[info.name]? = some slot ∧
      info.typeText = slot.elim "unknown" SqlType.text := by
  rw [infos, columnInfos, List.map_map, List.mem_map]
  constructor
  · rintro ⟨⟨name, slot⟩, hmem, rfl⟩
    exact ⟨slot, Std.ExtTreeMap.mem_toList_iff_getElem?_eq_some.mp hmem, rfl⟩
  · rintro ⟨slot, hslot, htext⟩
    refine ⟨(info.name, slot), Std.ExtTreeMap.mem_toList_iff_getElem?_eq_some.mpr hslot, ?_⟩
    show ColumnInfo.mk info.name (slot.elim "unknown" SqlType.text) = info
    rw [← htext]

theorem getElem?_ne_none_iff : s.columns[column]? ≠ none ↔ s.hasColumn column = true := by
  rw [hasColumn, Std.ExtTreeMap.contains_eq_isSome_getElem?, Option.isSome_iff_ne_none]

/-- The registered columns are reported as those of the state if their names are in lower case. -/
theorem hasColumn_reported_infos
    (hnames : ∀ column, s.hasColumn column = true → Text.lowered column = column) :
    (reported s.infos).hasColumn column = s.hasColumn column := by
  rw [Bool.eq_iff_iff, hasColumn_reported]
  constructor
  · rintro ⟨info, hinfo, rfl⟩
    obtain ⟨slot, hslot, -⟩ := mem_infos.mp hinfo
    have hcolumn : s.hasColumn info.name = true := by
      rw [← getElem?_ne_none_iff, hslot]
      exact Option.some_ne_none slot
    rwa [hnames info.name hcolumn]
  · intro hcolumn
    obtain ⟨slot, hslot⟩ := Option.ne_none_iff_exists'.mp (getElem?_ne_none_iff.mpr hcolumn)
    exact ⟨⟨column, _⟩, mem_infos.mpr ⟨slot, hslot, rfl⟩, hnames column hcolumn⟩

/-- Their types are those that the texts of the recorded types name. -/
theorem getElem?_reported_infos
    (hnames : ∀ column, s.hasColumn column = true → Text.lowered column = column) :
    (reported s.infos).columns[column]? =
      s.columns[column]?.map fun slot => slot.bind SqlType.reread? := by
  have hfold : reported s.infos = s.columnNames.foldl
      (fun t name => t.insertColumn name ((s.columnType? name).bind SqlType.reread?)) empty := by
    rw [reported, infos, columnInfos, List.map_map, List.foldl_map, columnNames,
      ← Std.ExtTreeMap.map_fst_toList_eq_keys, List.foldl_map]
    refine List.foldl_ext _ _ _ fun t e he => ?_
    obtain ⟨name, slot⟩ := e
    have hslot := Std.ExtTreeMap.mem_toList_iff_getElem?_eq_some.mp he
    have hlowered : Text.lowered name = name := by
      refine hnames name (getElem?_ne_none_iff.mp ?_)
      rw [hslot]
      exact Option.some_ne_none slot
    have htype : s.columnType? name = slot := by
      rw [columnType?, hslot]
      rfl
    rw [htype]
    have hunknown : Text.lower "unknown".toList = "unknown".toList := by decide
    show t.insertColumn (Text.lowered name) _ = _
    rw [hlowered]
    cases slot with
    | none => exact congrArg (t.insertColumn name) (if_pos hunknown)
    | some type => rfl
  have hnone : empty.columns[column]? = none := Std.ExtTreeMap.getElem?_empty
  rw [hfold, Compiler.getElem?_foldl_insertColumn _ s.columnNames empty
    (fun n hn => absurd columnType?_empty hn), hnone, getElem?_columns]
  by_cases hcolumn : s.hasColumn column = true
  · rw [if_pos (mem_columnNames.mpr hcolumn), if_pos hcolumn]
    rfl
  · rw [if_neg fun hmem => hcolumn (mem_columnNames.mp hmem), if_neg hcolumn]
    rfl

/-- Every column has a plain lower-case name and a declared type. -/
def Typed (s : ViewState) : Prop :=
  ∀ column slot, s.columns[column]? = some slot →
    Text.lowered column = column ∧ ∃ type, slot = some type ∧ SqlType.Declared type

/-- Then the registered columns are reported with their types. -/
theorem columns_reported_infos (h : s.Typed) : (reported s.infos).columns = s.columns := by
  have hnames : ∀ column, s.hasColumn column = true → Text.lowered column = column := by
    intro column hcolumn
    obtain ⟨slot, hslot⟩ := Option.ne_none_iff_exists'.mp (getElem?_ne_none_iff.mpr hcolumn)
    exact (h column slot hslot).1
  refine Std.ExtTreeMap.ext_getElem? fun column => ?_
  rw [getElem?_reported_infos hnames]
  cases hslot : s.columns[column]? with
  | none => rfl
  | some slot =>
      obtain ⟨-, type, rfl, hdeclared⟩ := h column slot hslot
      rw [Option.map_some, Option.bind_some, hdeclared.reread?]

theorem mem_mapColumns {columns : List ColumnInfo} :
    column ∈ mapColumns table columns ↔ ∃ info ∈ columns,
      (info.type.isMap = true ∨ table.isMapField (Text.lowered info.name) = true) ∧
        Text.lowered info.name = column := by
  rw [mapColumns, List.mem_map]
  simp only [List.mem_filter, Bool.or_eq_true, and_assoc]

end ViewState

/-! ### Registered views -/

namespace Compiler

variable {c : Compiler} {s : ViewState} {d : ViewDefinition} {column key : String}

theorem getElem?_register (d : ViewDefinition) (s : ViewState) (catalog : Catalog) :
    (c.register ⟨some d, .compiled s⟩ catalog).tables[c.viewName]? =
      some ⟨s.infos, some d.sql⟩ := by
  show (catalog.tables.insert c.viewName ⟨s.infos, some d.sql⟩)[c.viewName]? = _
  exact Std.ExtTreeMap.getElem?_insert_self

/-- The type that is recorded for a column of an assembled view: that of its map, or the basic one
of its entry. -/
theorem Assembles.getElem?_recordTypes (h : c.Assembles)
    (hkeys : ∀ column, ∀ key ∈ s.keysOf column, ']' ∉ key.toList)
    (hrender : (c.render s).value = .ok d) (hcolumn : s.hasColumn column = true) :
    Column.needsQuoting column = false ∧
      ((∃ m ∈ FieldTable.builtInMapFields, builtIn.mapField? column = some m ∧
          (c.recordTypes s).columns[column]? = some (some (.map m.valueType))) ∨
        (builtIn.mapField? column = none ∧ ∃ type ∈ SqlType.basic,
          (c.recordTypes s).columns[column]? = some (some type))) := by
  obtain ⟨-, -, hitems⟩ := value_render_eq_ok_iff.mp hrender
  obtain ⟨item, -, hitem⟩ := exists_item hitems (ViewState.mem_columnNames.mpr hcolumn)
  have hslot : (c.recordTypes s).columns[column]? = some (c.targetType? s column) := by
    rw [Compiler.getElem?_recordTypes, if_pos hcolumn]
  have htype {type : SqlType} (hdeclared : builtIn.declaredType? .two column = some type) :
      (c.recordTypes s).columns[column]? = some (some type) := by
    rw [hslot, targetType?, h.table, h.target, hdeclared]
    rfl
  obtain ⟨-, -, ⟨m, hm, -⟩ | ⟨hnone, -, e, he⟩⟩ := h.item (hkeys column) hitem
  · obtain ⟨hmem, hname⟩ := FieldTable.of_mapField? hm
    refine ⟨hname ▸ (FieldTable.mapField_of_mem hmem).1, Or.inl ⟨m, hmem, hm, htype ?_⟩⟩
    rw [FieldTable.declaredType?, hm]
    rfl
  · obtain ⟨hplain, type, hbasic, isDefault, rfl⟩ := FieldTable.eq_same_of_entryOfColumn? he
    refine ⟨hplain, Or.inr ⟨hnone, type, hbasic, htype ?_⟩⟩
    rw [FieldTable.declaredType?, hnone, he]
    rfl

theorem Assembles.typed (h : c.Assembles)
    (hkeys : ∀ column, ∀ key ∈ s.keysOf column, ']' ∉ key.toList)
    (hrender : (c.render s).value = .ok d) : (c.recordTypes s).Typed := by
  intro column slot hslot
  have hcolumn : s.hasColumn column = true := by
    rw [← hasColumn_recordTypes (c := c), ← ViewState.getElem?_ne_none_iff, hslot]
    exact Option.some_ne_none slot
  obtain ⟨hplain, ⟨m, hm, -, htype⟩ | ⟨-, type, hbasic, htype⟩⟩ :=
    h.getElem?_recordTypes hkeys hrender hcolumn
  · obtain rfl := Option.some.inj (hslot.symm.trans htype)
    exact ⟨Column.lowered_eq_self hplain, _, rfl, .map (FieldTable.mapField_of_mem hm).2.2⟩
  · obtain rfl := Option.some.inj (hslot.symm.trans htype)
    exact ⟨Column.lowered_eq_self hplain, _, rfl, .flat hbasic⟩

/-- The columns that are asked for keys are the map columns. -/
theorem Assembles.mem_mapColumns_iff (h : c.Assembles)
    (hkeys : ∀ column, ∀ key ∈ s.keysOf column, ']' ∉ key.toList)
    (hrender : (c.render s).value = .ok d) :
    column ∈ ViewState.mapColumns builtIn (c.recordTypes s).infos ↔
      s.hasColumn column = true ∧ ∃ m, builtIn.mapField? column = some m := by
  rw [ViewState.mem_mapColumns]
  have htyped := h.typed hkeys hrender
  constructor
  · rintro ⟨info, hinfo, hmap, rfl⟩
    obtain ⟨slot, hslot, htext⟩ := ViewState.mem_infos.mp hinfo
    obtain ⟨hlowered, -⟩ := htyped _ _ hslot
    have hcolumn : s.hasColumn info.name = true := by
      rw [← hasColumn_recordTypes (c := c), ← ViewState.getElem?_ne_none_iff, hslot]
      exact Option.some_ne_none slot
    rw [hlowered] at hmap ⊢
    refine ⟨hcolumn, ?_⟩
    obtain ⟨-, ⟨m, -, hm, -⟩ | ⟨hnone, type, hbasic, htype⟩⟩ :=
      h.getElem?_recordTypes hkeys hrender hcolumn
    · exact ⟨m, hm⟩
    · -- A column that is no map column has a basic type.
      exfalso
      obtain rfl := Option.some.inj (hslot.symm.trans htype)
      have hparse : info.type = type := by
        rw [ColumnInfo.type, htext]
        exact (SqlType.Declared.flat hbasic).parse_text.1
      rcases hmap with hismap | hfield
      · rw [hparse, SqlType.isMap_of_mem_basic hbasic] at hismap
        cases hismap
      · rw [FieldTable.isMapField, hnone] at hfield
        cases hfield
  · rintro ⟨hcolumn, m, hm⟩
    obtain ⟨hplain, -⟩ := h.getElem?_recordTypes hkeys hrender hcolumn
    have hslot : ∃ slot, (c.recordTypes s).columns[column]? = some slot := by
      rw [← Option.ne_none_iff_exists', ViewState.getElem?_ne_none_iff, hasColumn_recordTypes]
      exact hcolumn
    obtain ⟨slot, hslot⟩ := hslot
    have hlowered : Text.lowered column = column := Column.lowered_eq_self hplain
    refine ⟨⟨column, _⟩, ViewState.mem_infos.mpr ⟨slot, hslot, rfl⟩, Or.inr ?_, hlowered⟩
    rw [hlowered, FieldTable.isMapField, hm]
    rfl

/-- A registered assembled view is read back with its columns, their types, and the keys of its map
columns. -/
theorem Assembles.introspect_register (h : c.Assembles)
    (hkeys : ∀ column, ∀ key ∈ s.keysOf column, ']' ∉ key.toList)
    (hrender : (c.render s).value = .ok d) (catalog : Catalog) :
    let later := c.register ⟨some d, .compiled (c.recordTypes s)⟩ catalog
    let t := ((ViewState.introspect Catalog.engine c.table c.viewName).result later).1
    t.columns = (c.recordTypes s).columns ∧
      ∀ column key, key ∈ t.keysOf column ↔
        builtIn.isMapField column = true ∧ s.hasColumn column = true ∧ key ∈ s.keysOf column := by
  intro later t
  have ht : t = ViewState.withKeys (mergeChunks d.sql)
      (ViewState.reported (c.recordTypes s).infos)
      (ViewState.mapColumns builtIn (c.recordTypes s).infos) := by
    rw [← h.table]
    exact ViewState.introspect_of_registered (getElem?_register d _ catalog)
  rw [ht]
  constructor
  · rw [ViewState.columns_withKeys, ViewState.columns_reported_infos (h.typed hkeys hrender)]
  · intro column key
    rw [ViewState.mem_keysOf_withKeys, ViewState.keysOf_reported,
      h.mem_mapColumns_iff hkeys hrender, FieldTable.isMapField_iff]
    constructor
    · rintro (hnone | ⟨⟨hcolumn, hm⟩, hread⟩)
      · simp at hnone
      · exact ⟨hm, (h.exists_parse?_iff hkeys hrender (FieldTable.isMapField_iff.mpr hm)).mp hread⟩
    · rintro ⟨hm, hgiven⟩
      exact Or.inr ⟨⟨hgiven.1, hm⟩,
        (h.exists_parse?_iff hkeys hrender (FieldTable.isMapField_iff.mpr hm)).mpr hgiven⟩

/-- A registered view without assembled maps is read back with its columns and no keys. -/
theorem Passes.introspect_register (h : c.Passes)
    (hcolumns : ∀ column, s.hasColumn column = true →
      Text.lowered column = column ∧ ']' ∉ column.toList)
    (hrender : (c.render s).value = .ok d) (catalog : Catalog) :
    let later := c.register ⟨some d, .compiled (c.recordTypes s)⟩ catalog
    let t := ((ViewState.introspect Catalog.engine c.table c.viewName).result later).1
    ∀ column, t.hasColumn column = s.hasColumn column ∧ t.keysOf column = ∅ := by
  intro later t
  have ht : t = ViewState.withKeys (mergeChunks d.sql)
      (ViewState.reported (c.recordTypes s).infos)
      (ViewState.mapColumns c.table (c.recordTypes s).infos) :=
    ViewState.introspect_of_registered (getElem?_register d _ catalog)
  have hnone := h.parse?_eq_none (fun column hcolumn => (hcolumns column hcolumn).2) hrender
  have hlowered : ∀ column, (c.recordTypes s).hasColumn column = true →
      Text.lowered column = column := by
    intro column hcolumn
    rw [hasColumn_recordTypes] at hcolumn
    exact (hcolumns column hcolumn).1
  rw [ht]
  refine fun column => ⟨?_, ?_⟩
  · rw [ViewState.hasColumn_withKeys, ViewState.hasColumn_reported_infos hlowered,
      hasColumn_recordTypes]
  · refine Std.ExtTreeSet.ext_mem fun key => ?_
    rw [ViewState.mem_keysOf_withKeys, ViewState.keysOf_reported]
    simp [hnone]

end Compiler
end CostView
