import CostView.Proofs.DeclaredColumns
import CostView.Proofs.FieldText
import CostView.Proofs.UnitedRequests

/-!
# Fields of a layout always compile

Whatever field of a layout is asked for, the column that it is exposed as is declared in the
built-in table with a type that has a NULL.  So it is rendered in every state and over every source,
and as long as the engine executes what it is given a request for such fields cannot fail.  The
fields that are exposed when none is asked for are among them.
-/

namespace CostView

variable {σ : Type}

/-! ### The fields of a layout -/

namespace FieldTable

/-- The fields of a layout.  In generation one these are the listed columns, every name that is made
of a map column, an underscore and something more, and keys that are not empty; in generation two
the columns that are counterparts of listed ones, the map columns, and every key of those. -/
inductive IsLayoutField (t : FieldTable) : Generation → Field → Prop
  | listed {e : FieldEntry} (entry : e ∈ t.entries) : IsLayoutField t .one (.plain e.column)
  | suffixed {m : MapField} (known : m ∈ t.mapFields) {suffix : String} (nonempty : suffix ≠ "") :
      IsLayoutField t .one (.plain (flatColumn m.name suffix))
  | flatKey {m : MapField} (known : m ∈ t.mapFields) {key : String} (nonempty : key ≠ "") :
      IsLayoutField t .one (.mapKey m.name key)
  | counterpart {e : FieldEntry} (entry : e ∈ t.entries) {name : String}
      (column : e.counterpart.column? = some name) : IsLayoutField t .two (.plain name)
  | container {m : MapField} (known : m ∈ t.mapFields) : IsLayoutField t .two (.plain m.name)
  | key {m : MapField} (known : m ∈ t.mapFields) (key : String) :
      IsLayoutField t .two (.mapKey m.name key)

/-- The column that a key of generation one is exposed as is named in lower case, like every other,
and so it is named after the map column and the key in lower case. -/
theorem lowered_columnForKey {m : MapField} (hm : m ∈ builtIn.mapFields) (key : String) :
    Text.lowered (builtIn.columnForKey m.name key) = flatColumn m.name (Text.lowered key) := by
  have hname : Text.lowered m.name = m.name := Column.lowered_eq_self (mapField_of_mem hm).1
  have hparts : Text.lowered (flatColumn m.name key) =
      flatColumn (Text.lowered m.name) (Text.lowered key) := by
    rw [← String.toList_inj]
    simp [flatColumn, Text.lower]
  rw [columnForKey_builtIn, hparts, hname]

/-- Whatever field of a layout is asked for, the column that it is exposed as is declared with a type
that has a NULL. -/
theorem IsLayoutField.hasNull {c : Compiler} (htable : c.table = builtIn) {f : Field}
    (h : builtIn.IsLayoutField c.target f) :
    c.table.HasNull c.target (c.crosswalk.exposureOf f).column := by
  obtain ⟨table, source, target⟩ := c
  obtain rfl : table = builtIn := htable
  cases h with
  | listed entry =>
      obtain ⟨own, hown⟩ := exists_entry?_of_mem entry
      exact hasNull_of_entry? hown
  | suffixed known nonempty => exact hasNull_flatColumn known nonempty
  | @flatKey m known key nonempty =>
      change builtIn.HasNull .one (Text.lowered (builtIn.columnForKey m.name key))
      rw [lowered_columnForKey known]
      refine hasNull_flatColumn known fun hempty => nonempty ?_
      -- Putting a key into lower case does not make it empty.
      rw [← String.toList_eq_nil_iff] at hempty ⊢
      simpa [Text.lower] using hempty
  | counterpart entry column => exact hasNull_counterpart entry column
  | container known => exact hasNull_container known
  | key known key => exact hasNull_container known

end FieldTable

/-! ### Default fields -/

namespace FieldTable

/-- A default field is what the text of a default entry or of a map column names. -/
theorem exists_text_of_mem_defaults {t : FieldTable} {g : Generation} {f : Field}
    (h : f ∈ (Request.defaults t g).fields) :
    ∃ text ∈ t.defaultFields g, Field.parse t text = .ok f := by
  rw [Request.defaults, Std.ExtTreeSet.mem_ofList, List.contains_iff_mem, List.mem_filterMap] at h
  obtain ⟨text, htext, hparse⟩ := h
  refine ⟨text, Std.ExtTreeSet.mem_toList.mp htext, ?_⟩
  cases hfield : Field.parse t text with
  | error e =>
      rw [hfield] at hparse
      cases hparse
  | ok own =>
      rw [hfield] at hparse
      cases hparse
      rfl

/-- The column of an entry is a plain name. -/
theorem plain_of_mem {e : FieldEntry} (h : e ∈ builtIn.entries) :
    Column.needsQuoting e.column = false := by
  cases regular_of_mem e h with
  | same plain _ => exact plain
  | keyed known plainKey _ => exact needsQuoting_flatColumn (plain_of_isMapField known) plainKey

/-- The default fields of a generation are fields of its layout. -/
theorem isLayoutField_of_mem_defaults {g : Generation} {f : Field}
    (h : f ∈ (Request.defaults builtIn g).fields) : builtIn.IsLayoutField g f := by
  obtain ⟨text, htext, hparse⟩ := exists_text_of_mem_defaults h
  cases g with
  | one =>
      rw [defaultFields, Std.ExtTreeSet.mem_ofList, List.contains_iff_mem, List.mem_map] at htext
      obtain ⟨e, he, rfl⟩ := htext
      have hmem : e ∈ builtIn.entries := List.mem_of_mem_filter he
      rw [Field.parse_plain builtIn (plain_of_mem hmem)] at hparse
      cases hparse
      exact .listed hmem
  | two =>
      rw [defaultFields, Std.ExtTreeSet.mem_ofList, List.contains_iff_mem, List.mem_append,
        List.mem_map, List.mem_map] at htext
      rcases htext with ⟨e, he, rfl⟩ | ⟨m, hm, rfl⟩
      · have hmem : e ∈ builtIn.entries := List.mem_of_mem_filter he
        cases regular_of_mem e hmem with
        | @same name type isDefault plain _ =>
            have hcolumn : (FieldTable.same name type isDefault).counterpart.column? = some name :=
              column?_expr name
            rw [hcolumn, Option.getD_some, Field.parse_plain builtIn plain] at hparse
            cases hparse
            exact .counterpart hmem hcolumn
        | @keyed container key type isDefault known _ _ =>
            have hsql : (Expr.subscript (.column container) key).sql =
                subscriptText container key := by
              rw [← String.toList_inj, Expr.toList_sql]
              simp [Expr.print, subscriptText, quoteText]
            change Field.parse builtIn (Expr.subscript (.column container) key).sql = _ at hparse
            rw [hsql, Field.parse_subscriptText key (plain_of_isMapField known) known] at hparse
            cases hparse
            obtain ⟨m, hm⟩ := isMapField_iff.mp known
            obtain ⟨hmap, rfl⟩ := of_mapField? hm
            exact .key hmap key
      · rw [Field.parse_plain builtIn (mapField_of_mem hm).1] at hparse
        cases hparse
        exact .container hm

end FieldTable

/-! ### Compiling them -/

namespace Compiler

open FieldTable (builtIn)

variable {c : Compiler} {engine : Engine σ} {isOpen : σ → Prop} {snapshot : Snapshot}
  {request : Request} {world : σ}

/-- Every column that a state exposes is declared with a type that has a NULL. -/
def Covered (c : Compiler) (s : ViewState) : Prop :=
  ∀ column, s.hasColumn column = true → c.table.HasNull c.target column

theorem covered_empty : c.Covered .empty := by
  intro column hcolumn
  simp at hcolumn

theorem Covered.extend {s : ViewState} {xs : List Exposure} (h : c.Covered s)
    (hxs : ∀ x ∈ xs, c.table.HasNull c.target x.column) : c.Covered (s.extend xs) := by
  intro column hcolumn
  rcases ViewState.hasColumn_extend.mp hcolumn with hold | ⟨x, hx, rfl⟩
  · exact h column hold
  · exact hxs x hx

/-- One compilation that starts from declared columns and is asked for fields of the layout succeeds
and ends with declared columns. -/
theorem compile_of_covered (htable : c.table = builtIn) (haccepts : engine.Accepts isOpen)
    (hopen : isOpen world) (hstart : c.Covered ((c.start engine snapshot).result world).1)
    (hlayout : ∀ f ∈ request.fields, builtIn.IsLayoutField c.target f) :
    ∃ o later s, (c.compile engine snapshot request).result world = (.ok o, later) ∧
      isOpen later ∧ o.snapshot = .compiled s ∧ c.Covered s := by
  have hlater := isOpen_compile (c := c) haccepts hopen snapshot request
  obtain ⟨live, hlive⟩ : ∃ live, ((c.start engine snapshot).result world).1 =
      snapshot.state?.getD live := by
    cases snapshot with
    | fresh => exact ⟨_, rfl⟩
    | compiled s => exact ⟨s, rfl⟩
  -- The state that is aimed for: what was exposed, and where the requested fields are exposed.
  have haim : c.Covered (c.aim live snapshot request) := by
    rw [aim, ← hlive]
    refine hstart.extend fun x hx => ?_
    obtain ⟨f, hf, rfl⟩ := mem_requested.mp hx
    exact (hlayout f hf).hasNull htable
  obtain ⟨o, s, ho, hs, hcovered⟩ : ∃ o s, c.Attains live snapshot request o ∧
      o.snapshot = .compiled s ∧ c.Covered s := by
    by_cases hknown : c.UpToDate snapshot request
    · obtain ⟨s, rfl, -⟩ := id hknown
      exact ⟨_, s, .known hknown, rfl, hstart⟩
    · obtain ⟨d, hrendered⟩ := exists_render_iff.mpr fun column hcolumn =>
        exists_renders_of_hasNull (haim column hcolumn)
      refine ⟨_, _, .deployed hknown hrendered, rfl, fun column hcolumn => ?_⟩
      rw [hasColumn_recordTypes] at hcolumn
      exact haim column hcolumn
  obtain ⟨later, hcompiled⟩ := (attains_iff haccepts hopen hlive).mp ho
  rw [hcompiled] at hlater
  exact ⟨o, later, s, hcompiled, hlater, hs, hcovered⟩

/-- So does a series of them, by induction on the requests. -/
theorem compileEach_of_covered (htable : c.table = builtIn) (haccepts : engine.Accepts isOpen)
    (hopen : isOpen world) (hstart : c.Covered ((c.start engine snapshot).result world).1)
    {requests : List Request}
    (hlayout : ∀ request ∈ requests, ∀ f ∈ request.fields, builtIn.IsLayoutField c.target f) :
    ∃ x last, (c.compileEach engine snapshot requests).result world = (.ok x, last) := by
  induction requests generalizing snapshot world with
  | nil => exact ⟨_, _, rfl⟩
  | cons request rest ih =>
      obtain ⟨o, later, s, hcompiled, hlater, hs, hcovered⟩ :=
        compile_of_covered htable haccepts hopen hstart (hlayout request List.mem_cons_self)
      have hnext : c.Covered ((c.start engine o.snapshot).result later).1 := by
        rw [hs]
        exact hcovered
      obtain ⟨x, last, hrest⟩ := ih hlater hnext
        fun other hother => hlayout other (List.mem_cons_of_mem request hother)
      exact ⟨_, last, (result_compileEach_cons_eq_ok_iff engine).mpr
        ⟨o, later, x, hcompiled, hrest, rfl⟩⟩

/-- Over any source and for either layout, requests for fields of the layout are compiled one after
the other without a failure, if the engine accepts statements and there is no such view yet.  The
default fields are among them. -/
theorem compileEach_layoutFields (c : Compiler) (htable : c.table = builtIn) (engine : Engine σ)
    (isOpen : σ → Prop) (haccepts : engine.Accepts isOpen) (world : σ) (hopen : isOpen world)
    (missing : CatalogError)
    (hmissing : ((engine.listColumns c.viewName).result world).1 = .error missing) :
    (∀ requests : List Request,
      (∀ request ∈ requests, ∀ f ∈ request.fields, builtIn.IsLayoutField c.target f) →
        ∃ x last, (c.compileEach engine .fresh requests).result world = (.ok x, last)) ∧
    ∃ o last,
      (c.compile engine .fresh (.defaults builtIn c.target)).result world = (.ok o, last) := by
  have hstart : c.Covered ((c.start engine .fresh).result world).1 := by
    have hempty : ((c.start engine .fresh).result world).1 = .empty := by
      rw [start, ViewState.result_introspect]
      rcases hcolumns : (engine.listColumns c.viewName).result world with ⟨_ | columns, later⟩
      · rfl
      · rw [hcolumns] at hmissing
        cases hmissing
    rw [hempty]
    exact covered_empty
  refine ⟨fun requests hlayout => compileEach_of_covered htable haccepts hopen hstart hlayout, ?_⟩
  obtain ⟨o, last, -, hcompiled, -⟩ := compile_of_covered htable haccepts hopen hstart
    fun f hf => FieldTable.isLayoutField_of_mem_defaults hf
  exact ⟨o, last, hcompiled⟩

theorem compileEach_layoutFields_over_empty_source :
    let c : Compiler := ⟨builtIn, .ofColumns "billing.cur2" .two [], .one⟩
    let tag : Request := ⟨.ofList [Field.mapKey "resource_tags" "Team"]⟩
    let column : Request := ⟨.ofList [Field.plain "cost_category_project"]⟩
    (∃ x last,
      (c.compileEach Catalog.engine .fresh [tag, column]).result (.ofTables ∅) = (.ok x, last)) ∧
    ∃ o last, (c.compile Catalog.engine .fresh (.defaults builtIn .one)).result (.ofTables ∅) =
      (.ok o, last) := by
  intro c tag column
  have hempty : (Catalog.ofTables ∅).tables[c.viewName]? = none := by simp [Catalog.ofTables]
  have hmissing : ((Catalog.engine.listColumns c.viewName).result (.ofTables ∅)).1 =
      .error (.notFound c.viewName) := by
    rw [Catalog.result_listColumns_of_none hempty]
  obtain ⟨hall, hdefaults⟩ := compileEach_layoutFields c rfl Catalog.engine _
    Catalog.accepts_engine (.ofTables ∅) rfl (.notFound c.viewName) hmissing
  refine ⟨hall [tag, column] fun request hrequest f hf => ?_, hdefaults⟩
  rcases List.mem_pair.mp hrequest with rfl | rfl
  · rw [eq_of_mem_ofList_singleton hf]
    exact .flatKey (m := ⟨"resource_tags", .varchar⟩) (by decide) (by decide)
  · have hname : "cost_category_project" = flatColumn "cost_category" "project" := by decide
    rw [eq_of_mem_ofList_singleton hf, hname]
    exact .suffixed (m := ⟨"cost_category", .varchar⟩) (by decide) (by decide)

end Compiler
end CostView
