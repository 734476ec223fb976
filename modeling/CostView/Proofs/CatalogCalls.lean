import CostView.Proofs.Releases

/-!
# What a compilation asks of the engine

A traced engine answers as the engine does, so a compilation over it ends in the same way and tells
what was asked for.  A view that is up to date is not asked about.  Otherwise a compilation without
a snapshot reads the view first, the columns and then perhaps the text, and every compilation that
renders its state ends with the one statement that it executes.

The calls are those of any engine, whatever it answers.  Only that a failure changes nothing is said
of the catalog in memory, since it is for the engine to say what a refused statement does.
-/

namespace CostView

variable {σ : Type}

/-! ### Traced engines -/

namespace ViewState

/-- What reading a view back asks for: its columns, and its text if one of them may be a map. -/
def readCalls (engine : Engine σ) (table : FieldTable) (view : String) (world : σ) : List Call :=
  match ((engine.listColumns view).result world).1 with
  | .error _ => [.listColumns view]
  | .ok columns =>
    if mapColumns table columns = [] then [.listColumns view]
    else [.listColumns view, .definitionText view]

theorem result_introspect_traced (engine : Engine σ) (table : FieldTable) (view : String)
    (world : Traced σ) :
    (introspect engine.traced table view).result world =
      (((introspect engine table view).result world.state).1,
        ⟨((introspect engine table view).result world.state).2,
          world.calls ++ readCalls engine table view world.state⟩) := by
  have hcolumns : (engine.traced.listColumns view).result world =
      (((engine.listColumns view).result world.state).1,
        ⟨((engine.listColumns view).result world.state).2,
          world.calls ++ [.listColumns view]⟩) := rfl
  have htext (later : Traced σ) : (engine.traced.definitionText view).result later =
      (((engine.definitionText view).result later.state).1,
        ⟨((engine.definitionText view).result later.state).2,
          later.calls ++ [.definitionText view]⟩) := rfl
  rw [result_introspect, result_introspect, readCalls, hcolumns]
  rcases (engine.listColumns view).result world.state with ⟨_ | columns, later⟩
  · rfl
  · dsimp only
    by_cases hmaps : mapColumns table columns = []
    · rw [if_pos hmaps, if_pos hmaps, if_pos hmaps]
    · rw [if_neg hmaps, if_neg hmaps, if_neg hmaps, htext]
      rcases (engine.definitionText view).result later with ⟨_ | text, last⟩
      · simp
      · simp

/-- The text is asked for only after the columns, and only if one of them may be a map. -/
theorem readCalls_cases (engine : Engine σ) (table : FieldTable) (view : String) (world : σ) :
    readCalls engine table view world = [.listColumns view] ∨
      readCalls engine table view world = [.listColumns view, .definitionText view] ∧
        ∃ columns, ((engine.listColumns view).result world).1 = .ok columns ∧
          ∃ info ∈ columns,
            info.type.isMap = true ∨ table.isMapField (Text.lowered info.name) = true := by
  rw [readCalls]
  cases ((engine.listColumns view).result world).1 with
  | error e => exact Or.inl rfl
  | ok columns =>
      dsimp only
      split
      · exact Or.inl rfl
      · next hmaps =>
          obtain ⟨name, hname⟩ := List.exists_mem_of_ne_nil _ hmaps
          obtain ⟨info, hinfo, hmap, -⟩ := mem_mapColumns.mp hname
          exact Or.inr ⟨rfl, columns, rfl, info, hinfo, hmap⟩

end ViewState

namespace Compiler

variable {c : Compiler} {s : ViewState}

/-- What a compilation asks the engine for, in order. -/
def calls (c : Compiler) (engine : Engine σ) (snapshot : Snapshot) (request : Request) (world : σ) :
    List Call :=
  ((c.compile engine.traced snapshot request).result ⟨world, []⟩).2.calls

/-- The state that a compilation makes the view expose. -/
def goal (c : Compiler) (engine : Engine σ) (snapshot : Snapshot) (request : Request) (world : σ) :
    ViewState :=
  ((c.start engine snapshot).result world).1.extend (c.requested request)

/-- The goal has the columns that the view has already and those that are requested. -/
theorem hasColumn_goal (engine : Engine σ) {snapshot : Snapshot} {request : Request} {world : σ}
    {column : String} :
    (c.goal engine snapshot request world).hasColumn column = true ↔
      ((c.start engine snapshot).result world).1.hasColumn column = true ∨
        ∃ f ∈ request.fields, (c.crosswalk.exposureOf f).column = column := by
  rw [goal, ViewState.hasColumn_extend]
  refine or_congr_right ?_
  simp only [mem_requested]
  constructor
  · rintro ⟨x, ⟨f, hf, rfl⟩, hcolumn⟩
    exact ⟨f, hf, hcolumn⟩
  · rintro ⟨f, hf, hcolumn⟩
    exact ⟨_, ⟨f, hf, rfl⟩, hcolumn⟩

/-- What is asked for before anything is rendered. -/
def startCalls (c : Compiler) (engine : Engine σ) (snapshot : Snapshot) (world : σ) : List Call :=
  match snapshot with
  | .fresh => ViewState.readCalls engine c.table c.viewName world
  | .compiled _ => []

/-- What is asked for once it is known what to expose: nothing unless all of it is rendered. -/
def deployCalls (c : Compiler) (s : ViewState) : List Call :=
  match (c.render s).value with
  | .error _ => []
  | .ok d => [.execute d.sql]

theorem result_start_traced (engine : Engine σ) (snapshot : Snapshot) (world : Traced σ) :
    (c.start engine.traced snapshot).result world =
      (((c.start engine snapshot).result world.state).1,
        ⟨((c.start engine snapshot).result world.state).2,
          world.calls ++ c.startCalls engine snapshot world.state⟩) := by
  cases snapshot with
  | fresh => exact ViewState.result_introspect_traced engine c.table c.viewName world
  | compiled s => simp [start, startCalls]

theorem calls_deploy (engine : Engine σ) (world : Traced σ) :
    ((c.deploy engine.traced s).result world).2.calls = world.calls ++ c.deployCalls s := by
  have hexecute (sql : String) : (engine.traced.execute sql).result world =
      (((engine.execute sql).result world.state).1,
        ⟨((engine.execute sql).result world.state).2, world.calls ++ [.execute sql]⟩) := rfl
  rw [result_deploy, deployCalls]
  cases (c.render s).value with
  | error e => simp
  | ok d =>
      dsimp only
      rw [hexecute]
      rcases (engine.execute d.sql).result world.state with ⟨_ | ⟨⟩, later⟩ <;> rfl

theorem calls_of_upToDate (engine : Engine σ) {snapshot : Snapshot} {request : Request}
    (h : c.UpToDate snapshot request) (world : σ) : c.calls engine snapshot request world = [] := by
  rw [calls, result_compile_of_upToDate _ h]

/-- First what there is is read, as far as it has to be, and then the goal is deployed. -/
theorem calls_of_not_upToDate (engine : Engine σ) {snapshot : Snapshot} {request : Request}
    (h : ¬ c.UpToDate snapshot request) (world : σ) :
    c.calls engine snapshot request world =
      c.startCalls engine snapshot world ++
        c.deployCalls (c.goal engine snapshot request world) := by
  rw [calls, result_compile_of_not_upToDate _ h, result_start_traced, calls_deploy, goal,
    List.nil_append]

/-- A statement is executed just if the goal is rendered and its definition is that statement. -/
theorem execute_mem_calls_iff (engine : Engine σ) {snapshot : Snapshot} {request : Request}
    {world : σ} {sql : String} :
    .execute sql ∈ c.calls engine snapshot request world ↔
      ¬ c.UpToDate snapshot request ∧
        ∃ d, (c.render (c.goal engine snapshot request world)).value = .ok d ∧ d.sql = sql := by
  by_cases h : c.UpToDate snapshot request
  · rw [calls_of_upToDate engine h]
    simp [h]
  · have hreads : .execute sql ∉ c.startCalls engine snapshot world := by
      cases snapshot with
      | compiled s => simp [startCalls]
      | fresh =>
          rw [startCalls]
          rcases ViewState.readCalls_cases engine c.table c.viewName world with heq | ⟨heq, -⟩
          · simp [heq]
          · simp [heq]
    rw [calls_of_not_upToDate engine h, List.mem_append, or_iff_right hreads, deployCalls]
    cases (c.render (c.goal engine snapshot request world)).value with
    | error e => simp
    | ok d => simp [h, eq_comm]

/-- The engine is asked for nothing if the view is known to be up to date.  Otherwise a known state
is not read again; an unknown one is read first, its columns once and then its text at most once, if
one of the columns may be a map.  The definition is executed once and last if every column of the
goal is rendered, and not at all if one is not.  A compilation that fails over the catalog in memory
leaves it as it was, and a refusal is handed on as it is. -/
theorem catalog_protocol (c : Compiler) (engine : Engine σ) (snapshot : Snapshot)
    (request : Request) (world : σ) :
    (c.UpToDate snapshot request → c.calls engine snapshot request world = []) ∧
    (¬ c.UpToDate snapshot request →
      ∃ reads writes, c.calls engine snapshot request world = reads ++ writes ∧
        (∀ s, snapshot = .compiled s → reads = []) ∧
        (snapshot = .fresh →
          reads = [.listColumns c.viewName] ∨
            reads = [.listColumns c.viewName, .definitionText c.viewName] ∧
              ∃ columns, ((engine.listColumns c.viewName).result world).1 = .ok columns ∧
                ∃ info ∈ columns,
                  info.type.isMap = true ∨ c.table.isMapField (Text.lowered info.name) = true) ∧
        ((∀ column, (c.goal engine snapshot request world).hasColumn column = true →
            ∃ value, c.Renders (c.goal engine snapshot request world) column value) →
          ∃ d, (c.render (c.goal engine snapshot request world)).value = .ok d ∧
            writes = [.execute d.sql]) ∧
        ((∃ column, (c.goal engine snapshot request world).hasColumn column = true ∧
            ∀ value, ¬ c.Renders (c.goal engine snapshot request world) column value) →
          writes = [])) ∧
    ∀ (catalog later : Catalog) (e : CompileError),
      (c.compile Catalog.engine snapshot request).result catalog = (.error e, later) →
        later = catalog ∧ ((∃ unknown, e = .unknownField unknown) ∨
          ∃ message, catalog.refusal = some message ∧ e = .catalog (.rejected message)) := by
  refine ⟨fun h => calls_of_upToDate engine h world, fun h => ?_,
    fun catalog later e hfails => compile_error_cases hfails⟩
  refine ⟨_, _, calls_of_not_upToDate engine h world, ?_, ?_, fun hall => ?_, ?_⟩
  · rintro s rfl
    rfl
  · rintro rfl
    exact ViewState.readCalls_cases engine c.table c.viewName world
  · obtain ⟨d, hd⟩ := exists_render_iff.mpr hall
    refine ⟨d, hd, ?_⟩
    rw [deployCalls, hd]
  · rintro ⟨column, hcolumn, hnone⟩
    rw [deployCalls]
    cases hrender : (c.render (c.goal engine snapshot request world)).value with
    | error e => rfl
    | ok d =>
        obtain ⟨value, hvalue⟩ := exists_render_iff.mp ⟨d, hrender⟩ column hcolumn
        exact absurd hvalue (hnone value)

theorem catalog_protocol_at_refusal :
    let c : Compiler := ⟨⟨"1", [⟨"product", .varchar⟩], []⟩, ⟨"cur", .one, ∅⟩, .two⟩
    let request : Request := ⟨.ofList [Field.mapKey "product" "vcpu"]⟩
    let known : Snapshot := .compiled (ViewState.empty.extend [.ofKey "product" "vcpu"])
    let catalog := (Catalog.ofTables ∅).refuse "denied"
    c.UpToDate known request ∧ c.calls Catalog.engine known request catalog = [] ∧
      ¬ c.UpToDate .fresh request ∧
      (∃ reads, ∃ d : ViewDefinition,
        c.calls Catalog.engine .fresh request catalog = reads ++ [.execute d.sql] ∧
        (reads = [.listColumns "cur2_proxy"] ∨
          reads = [.listColumns "cur2_proxy", .definitionText "cur2_proxy"])) ∧
      (c.compile Catalog.engine .fresh request).result catalog =
        (.error (.catalog (.rejected "denied")), catalog) := by
  intro c request known catalog
  have hknown : c.UpToDate known request := by
    refine ⟨_, rfl, ViewState.covers_iff.mp ?_⟩
    decide +kernel
  have hview : c.viewName = "cur2_proxy" := by decide +kernel
  obtain ⟨hnone, -, -⟩ := catalog_protocol c Catalog.engine known request catalog
  obtain ⟨-, hasked, hfailed⟩ := catalog_protocol c Catalog.engine .fresh request catalog
  obtain ⟨reads, writes, hcalls, -, hreads, hwrites, -⟩ := hasked not_upToDate_fresh
  -- The one column of the goal is a map, and those are always assembled.
  have hrendered : (c.render (c.goal Catalog.engine .fresh request catalog)).value.isOk = true := by
    decide +kernel
  obtain ⟨d, -, rfl⟩ := hwrites (exists_render_iff.mp (exists_render_of_isOk hrendered))
  refine ⟨hknown, hnone hknown, not_upToDate_fresh, ⟨reads, d, hcalls, ?_⟩, ?_⟩
  · rw [← hview]
    rcases hreads rfl with hcolumns | ⟨htext, -⟩
    · exact Or.inl hcolumns
    · exact Or.inr htext
  · have hrefused : (((c.compile Catalog.engine .fresh request).result catalog).1 matches
        .error (.catalog _)) = true := by
      decide +kernel
    rcases hcompile : (c.compile Catalog.engine .fresh request).result catalog with ⟨e | o, later⟩
    · rw [hcompile] at hrefused
      obtain ⟨rfl, ⟨unknown, rfl⟩ | ⟨message, hmessage, rfl⟩⟩ := hfailed catalog later e hcompile
      · cases hrefused
      · cases hmessage
        rfl
    · rw [hcompile] at hrefused
      cases hrefused

end Compiler
end CostView
