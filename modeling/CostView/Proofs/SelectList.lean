import CostView.Proofs.CatalogCalls
import CostView.Proofs.LayoutFields
import CostView.Proofs.Recompilation

/-!
# Statements that select something

A statement without columns is no statement that an engine accepts.  A compilation executes one in a
single case: nothing is known of the view, the engine reports no column of it, and nothing is asked
for.  Whatever else is executed selects at least one column.

A request for the default fields is made where no field is given, so that this case does not arise.
It is made by those who read requests, and not by the compilation itself, which takes an empty
request as it is.
-/

namespace CostView

variable {σ : Type}

/-! ### What a definition selects -/

/-- The statement of a definition without columns is that of no other definition of the view over
the source. -/
theorem ViewDefinition.items_eq_nil_of_sql_eq {view source : String} {items : List SelectItem}
    (h : (⟨view, items, source⟩ : ViewDefinition).sql =
      (⟨view, [], source⟩ : ViewDefinition).sql) : items = [] := by
  obtain ⟨-, hlength⟩ := Compiler.sums_eq_of_sql_eq (d := ⟨view, [], source⟩)
    (e := ⟨view, items, source⟩) rfl rfl h
  cases items with
  | nil => rfl
  | cons item rest =>
      have hpos := Compiler.length_text_pos item
      simp only [List.map_cons, List.sum_cons, List.map_nil, List.sum_nil, List.length_nil]
        at hlength
      omega

/-- A column is read back just if the engine reports it: keys are read after the columns and add no
column. -/
theorem ViewState.hasColumn_introspect (engine : Engine σ) {table : FieldTable} {view : String}
    {world : σ} {column : String} :
    ((introspect engine table view).result world).1.hasColumn column = true ↔
      ∃ columns, ((engine.listColumns view).result world).1 = .ok columns ∧
        ∃ info ∈ columns, Text.lowered info.name = column := by
  rw [result_introspect]
  rcases (engine.listColumns view).result world with ⟨_ | columns, later⟩
  · simp
  · dsimp only
    split
    · simp
    · rcases (engine.definitionText view).result later with ⟨_ | text, last⟩
      · simp
      · simp

namespace Compiler

variable {c : Compiler} {s : ViewState} {d : ViewDefinition}

/-- A definition selects nothing just if the state that it renders has no column. -/
theorem items_eq_nil_iff (h : (c.render s).value = .ok d) :
    d.items = [] ↔ ∀ column, ¬ s.hasColumn column = true := by
  obtain ⟨-, -, hitems⟩ := value_render_eq_ok_iff.mp h
  constructor
  · intro hnil column hcolumn
    obtain ⟨item, hitem, -⟩ := exists_item hitems (ViewState.mem_columnNames.mpr hcolumn)
    rw [hnil] at hitem
    cases hitem
  · intro hnone
    by_contra hne
    obtain ⟨item, hitem⟩ := List.exists_mem_of_ne_nil _ hne
    obtain ⟨column, hcolumn, -⟩ := exists_column hitems hitem
    exact hnone column (ViewState.mem_columnNames.mp hcolumn)

/-- A goal that is not known to be met has no column just if nothing is known of the view, nothing
is reported of it and nothing is asked for. -/
theorem goal_empty_iff (engine : Engine σ) {snapshot : Snapshot} {request : Request} {world : σ}
    (h : ¬ c.UpToDate snapshot request) :
    (∀ column, ¬ (c.goal engine snapshot request world).hasColumn column = true) ↔
      snapshot = .fresh ∧ (∀ f, f ∉ request.fields) ∧
        ∀ columns, ((engine.listColumns c.viewName).result world).1 = .ok columns →
          columns = [] := by
  simp only [hasColumn_goal, not_or, not_exists, not_and]
  constructor
  · intro hnone
    have hunasked : ∀ f, f ∉ request.fields := fun f hf => (hnone _).2 f hf rfl
    cases snapshot with
    | compiled known =>
        -- A known view meets every request for nothing.
        refine absurd ⟨known, rfl, fun x hx => ?_⟩ h
        obtain ⟨f, hf, -⟩ := mem_requested.mp hx
        exact absurd hf (hunasked f)
    | fresh =>
        refine ⟨rfl, hunasked, fun columns hcolumns => ?_⟩
        by_contra hne
        obtain ⟨info, hinfo⟩ := List.exists_mem_of_ne_nil columns hne
        exact (hnone _).1 ((ViewState.hasColumn_introspect engine).mpr
          ⟨columns, hcolumns, info, hinfo, rfl⟩)
  · rintro ⟨rfl, hunasked, hunreported⟩ column
    refine ⟨fun hcolumn => ?_, fun f hf => absurd hf (hunasked f)⟩
    obtain ⟨columns, hcolumns, info, hinfo, -⟩ :=
      (ViewState.hasColumn_introspect engine).mp hcolumn
    rw [hunreported columns hcolumns] at hinfo
    cases hinfo

end Compiler

/-! ### Requests for the default fields -/

namespace Request

open FieldTable (builtIn)

theorem mem_defaults {t : FieldTable} {g : Generation} {text : String} {f : Field}
    (htext : text ∈ t.defaultFields g) (hparse : Field.parse t text = .ok f) :
    f ∈ (defaults t g).fields := by
  rw [defaults, Std.ExtTreeSet.mem_ofList, List.contains_iff_mem, List.mem_filterMap]
  exact ⟨text, Std.ExtTreeSet.mem_toList.mpr htext, by rw [hparse]; rfl⟩

/-- The built-in table has default fields for both generations. -/
theorem exists_mem_defaults (g : Generation) : ∃ f, f ∈ (defaults builtIn g).fields := by
  cases g with
  | one =>
      have hdefault : builtIn.entries.any (fun e => e.isDefault) = true := by decide +kernel
      obtain ⟨e, he, hisDefault⟩ := List.any_eq_true.mp hdefault
      refine ⟨_, mem_defaults ?_ (Field.parse_plain builtIn (FieldTable.plain_of_mem he))⟩
      rw [FieldTable.defaultFields, Std.ExtTreeSet.mem_ofList, List.contains_iff_mem]
      exact List.mem_map.mpr ⟨e, List.mem_filter.mpr ⟨he, hisDefault⟩, rfl⟩
  | two =>
      obtain ⟨m, hm⟩ : ∃ m, m ∈ builtIn.mapFields := ⟨_, List.mem_cons_self⟩
      refine ⟨_, mem_defaults ?_ (Field.parse_plain builtIn (FieldTable.mapField_of_mem hm).1)⟩
      rw [FieldTable.defaultFields, Std.ExtTreeSet.mem_ofList, List.contains_iff_mem,
        List.mem_append]
      exact Or.inr (List.mem_map.mpr ⟨m, hm, rfl⟩)

/-- A request that is read with the default fields to fall back on asks for something. -/
theorem exists_mem_of_parseOrDefaults {g : Generation} {texts : List String} {request : Request}
    (h : parseOrDefaults builtIn g texts = .ok request) : ∃ f, f ∈ request.fields := by
  rw [parseOrDefaults] at h
  cases hparse : parse builtIn texts with
  | error e =>
      rw [hparse] at h
      cases h
  | ok own =>
      rw [hparse] at h
      obtain rfl := Except.ok.inj h
      by_cases hempty : own.fields.isEmpty = true
      · rw [if_pos hempty]
        exact exists_mem_defaults g
      · rw [if_neg hempty]
        by_contra hnone
        refine hempty (Std.ExtTreeSet.isEmpty_iff.mpr (Std.ExtTreeSet.ext_mem fun f => ?_))
        exact iff_of_false (fun hf => hnone ⟨f, hf⟩) Std.ExtTreeSet.not_mem_empty

end Request

namespace Compiler

open FieldTable (builtIn)

variable {c : Compiler}

/-- The definition of the view that selects nothing. -/
def emptyDefinition (c : Compiler) : ViewDefinition :=
  ⟨c.viewName, [], c.source.name⟩

/-- The statement that selects nothing is executed just if nothing is known of the view, no column
of it is reported and nothing is asked for. -/
theorem execute_emptyDefinition_iff (engine : Engine σ) {snapshot : Snapshot} {request : Request}
    {world : σ} :
    .execute c.emptyDefinition.sql ∈ c.calls engine snapshot request world ↔
      snapshot = .fresh ∧ (∀ f, f ∉ request.fields) ∧
        ∀ columns, ((engine.listColumns c.viewName).result world).1 = .ok columns →
          columns = [] := by
  rw [execute_mem_calls_iff]
  constructor
  · rintro ⟨hstale, ⟨view, items, source⟩, hrender, hsql⟩
    obtain ⟨rfl, rfl, -⟩ := value_render_eq_ok_iff.mp hrender
    have hitems := ViewDefinition.items_eq_nil_of_sql_eq hsql
    exact (goal_empty_iff engine hstale).mp ((items_eq_nil_iff hrender).mp hitems)
  · intro hempty
    have hstale : ¬ c.UpToDate snapshot request := by
      rw [hempty.1]
      exact not_upToDate_fresh
    have hnone := (goal_empty_iff engine hstale).mpr hempty
    -- There is no column that could fail to be rendered.
    obtain ⟨⟨view, items, source⟩, hrender⟩ := exists_render_iff.mpr fun column hcolumn =>
      absurd hcolumn (hnone column)
    obtain ⟨rfl, rfl, -⟩ := value_render_eq_ok_iff.mp hrender
    obtain rfl : items = [] := (items_eq_nil_iff hrender).mpr hnone
    exact ⟨hstale, _, hrender, rfl⟩

/-- Every statement that a compilation executes selects at least one column, except in one case:
nothing is known of the view, no column of it is reported and nothing is asked for.  In that case
the statement that selects nothing is executed.  It never is for a request that is read with the
default fields of the built-in table to fall back on, since such a request asks for something. -/
theorem execute_selects (c : Compiler) (engine : Engine σ) (snapshot : Snapshot)
    (request : Request) (world : σ) :
    (∀ sql, .execute sql ∈ c.calls engine snapshot request world →
      sql = c.emptyDefinition.sql ∨
        ∃ items ≠ [], sql = (⟨c.viewName, items, c.source.name⟩ : ViewDefinition).sql ∧
          sql ≠ c.emptyDefinition.sql) ∧
    (.execute c.emptyDefinition.sql ∈ c.calls engine snapshot request world ↔
      snapshot = .fresh ∧ (∀ f, f ∉ request.fields) ∧
        ∀ columns, ((engine.listColumns c.viewName).result world).1 = .ok columns →
          columns = []) ∧
    ∀ g texts, Request.parseOrDefaults builtIn g texts = .ok request →
      (∃ f, f ∈ request.fields) ∧
        .execute c.emptyDefinition.sql ∉ c.calls engine snapshot request world := by
  refine ⟨fun sql hexecuted => ?_, execute_emptyDefinition_iff engine, fun g texts hparse => ?_⟩
  · obtain ⟨-, ⟨view, items, source⟩, hrender, rfl⟩ := (execute_mem_calls_iff engine).mp hexecuted
    obtain ⟨rfl, rfl, -⟩ := value_render_eq_ok_iff.mp hrender
    by_cases hitems : items = []
    · left
      rw [hitems]
      rfl
    · right
      exact ⟨items, hitems, rfl, fun hsql => hitems (ViewDefinition.items_eq_nil_of_sql_eq hsql)⟩
  · obtain ⟨f, hf⟩ := Request.exists_mem_of_parseOrDefaults hparse
    refine ⟨⟨f, hf⟩, fun hexecuted => ?_⟩
    obtain ⟨-, hunasked, -⟩ := (execute_emptyDefinition_iff engine).mp hexecuted
    exact hunasked f hf

/-- A column that is asked for is selected. -/
theorem execute_selects_at_account :
    let payer : ColumnInfo := ⟨"bill_payer_account_id", "varchar"⟩
    let c : Compiler := ⟨builtIn, .ofColumns "billing.cur" .two [payer], .two⟩
    let request : Request := ⟨.ofList [Field.plain "bill_payer_account_id"]⟩
    let catalog := (Catalog.ofTables ∅).addTable "billing.cur" [payer]
    Request.parseOrDefaults builtIn .two ["bill_payer_account_id"] = .ok request ∧
      ∃ items ≠ [], .execute (⟨c.viewName, items, c.source.name⟩ : ViewDefinition).sql ∈
        c.calls Catalog.engine .fresh request catalog := by
  intro payer c request catalog
  have hparse : Request.parseOrDefaults builtIn .two ["bill_payer_account_id"] = .ok request := by
    have hfield : Field.parse builtIn "bill_payer_account_id" =
        .ok (.plain "bill_payer_account_id") := Field.parse_plain builtIn (by decide)
    have hasked : request.fields.isEmpty = false := by decide +kernel
    rw [Request.parseOrDefaults, Request.parse, Request.parseList, Request.parseList, hfield]
    show Except.ok (if request.fields.isEmpty then _ else request) = _
    rw [hasked]
    rfl
  have hrendered : (c.render (c.goal Catalog.engine .fresh request catalog)).value.isOk = true := by
    decide +kernel
  obtain ⟨d, hrender⟩ := exists_render_of_isOk hrendered
  have hexecuted : .execute d.sql ∈ c.calls Catalog.engine .fresh request catalog :=
    (execute_mem_calls_iff Catalog.engine).mpr ⟨not_upToDate_fresh, d, hrender, rfl⟩
  obtain ⟨hselects, -, hasked⟩ := execute_selects c Catalog.engine .fresh request catalog
  obtain hnothing | ⟨items, hitems, hsql, -⟩ := hselects d.sql hexecuted
  · obtain ⟨-, hunexecuted⟩ := hasked .two _ hparse
    rw [hnothing] at hexecuted
    exact absurd hexecuted hunexecuted
  · exact ⟨hparse, items, hitems, hsql ▸ hexecuted⟩

/-- Nothing is asked for, and there is no view yet. -/
theorem empty_request_selects_nothing :
    let payer : ColumnInfo := ⟨"bill_payer_account_id", "varchar"⟩
    let c : Compiler := ⟨builtIn, .ofColumns "billing.cur" .one [payer], .two⟩
    let catalog := (Catalog.ofTables ∅).addTable "billing.cur" [payer]
    .execute "CREATE OR REPLACE VIEW billing.cur2_proxy AS SELECT  FROM billing.cur" ∈
      c.calls Catalog.engine .fresh ⟨∅⟩ catalog := by
  intro payer c catalog
  have hsql : c.emptyDefinition.sql =
      "CREATE OR REPLACE VIEW billing.cur2_proxy AS SELECT  FROM billing.cur" := by
    decide +kernel
  rw [← hsql]
  refine (execute_emptyDefinition_iff Catalog.engine).mpr
    ⟨rfl, fun f => Std.ExtTreeSet.not_mem_empty, fun columns hcolumns => ?_⟩
  have hmissing : catalog.tables[c.viewName]? = none := by decide +kernel
  rw [Catalog.result_listColumns_of_none hmissing] at hcolumns
  cases hcolumns

end Compiler
end CostView
