import CostView.Proofs.LiveView
import CostView.Proofs.Rendering

/-!
# What a compilation does

A compilation that succeeds has either left a known view alone or rendered a larger state and
executed its definition.  `compile_eq_ok_iff` says so in both directions, so nothing that follows
has to look into `compile` again.  The types that are recorded afterwards change neither the
columns nor the keys.
-/

namespace CostView

variable {σ : Type}

/-- The one field of a request. -/
theorem eq_of_mem_ofList_singleton {f field : Field} (h : f ∈ Std.ExtTreeSet.ofList [field]) :
    f = field := by
  rwa [Std.ExtTreeSet.mem_ofList, List.contains_iff_mem, List.mem_singleton] at h

namespace Compiler

variable {c : Compiler} {s t : ViewState} {column : String} {xs : List Exposure}

/-! ### Recording types -/

/-- A type that is known remains the type of the column, unless the table declares another. -/
theorem targetType?_ne_none (h : s.columnType? column ≠ none) : c.targetType? s column ≠ none := by
  obtain ⟨type, htype⟩ := Option.ne_none_iff_exists'.mp h
  rw [targetType?, htype]
  cases c.table.declaredType? c.target column <;> simp

/-- A fold that gives known types to exposed columns, described slot by slot. -/
theorem getElem?_foldl_insertColumn (typeOf : String → Option SqlType) (columns : List String)
    (s : ViewState) (hkept : ∀ n, s.columnType? n ≠ none → typeOf n ≠ none) (column : String) :
    (columns.foldl (fun t n => t.insertColumn n (typeOf n)) s).columns[column]? =
      if column ∈ columns then some (typeOf column) else s.columns[column]? := by
  induction columns generalizing s with
  | nil => simp
  | cons n rest ih =>
      have hnext : ∀ m, (s.insertColumn n (typeOf n)).columnType? m ≠ none → typeOf m ≠ none := by
        intro m hm
        rw [ViewState.columnType?_insertColumn] at hm
        by_cases hnm : n = m
        · subst hnm
          cases htype : typeOf n with
          | none =>
              rw [if_pos rfl, htype] at hm
              exact absurd htype (hkept n hm)
          | some type => simp
        · rw [if_neg hnm] at hm
          exact hkept m hm
      -- A column that comes again is given the same type again.
      rw [List.foldl_cons, ih _ hnext, ViewState.getElem?_insertColumn]
      by_cases hrest : column ∈ rest
      · rw [if_pos hrest, if_pos (List.mem_cons_of_mem n hrest)]
      · by_cases hn : n = column
        · subst hn
          rw [if_neg hrest, if_pos rfl, if_pos List.mem_cons_self]
          cases htype : typeOf n with
          | none =>
              have hnone : s.columnType? n = none := by
                by_contra hsome
                exact hkept n hsome htype
              rw [hnone]
              rfl
          | some type => rfl
        · have hnot : column ∉ n :: rest := by
            rw [List.mem_cons]
            rintro (heq | hmem)
            · exact hn heq.symm
            · exact hrest hmem
          rw [if_neg hrest, if_neg hn, if_neg hnot]

/-- Every exposed column has its target type recorded. -/
theorem getElem?_recordTypes :
    (c.recordTypes s).columns[column]? =
      if s.hasColumn column = true then some (c.targetType? s column) else none := by
  rw [recordTypes, getElem?_foldl_insertColumn (c.targetType? s) s.columnNames s
    fun n => targetType?_ne_none]
  by_cases h : s.hasColumn column = true
  · rw [if_pos (ViewState.mem_columnNames.mpr h), if_pos h]
  · rw [if_neg fun hmem => h (ViewState.mem_columnNames.mp hmem), if_neg h]
    rw [ViewState.hasColumn, Std.ExtTreeMap.contains_eq_isSome_getElem?] at h
    simpa using h

@[simp] theorem hasColumn_recordTypes :
    (c.recordTypes s).hasColumn column = s.hasColumn column := by
  rw [ViewState.hasColumn, Std.ExtTreeMap.contains_eq_isSome_getElem?, getElem?_recordTypes]
  by_cases h : s.hasColumn column = true <;> simp [h]

theorem columnType?_recordTypes :
    (c.recordTypes s).columnType? column =
      if s.hasColumn column = true then c.targetType? s column else none := by
  rw [ViewState.columnType?, getElem?_recordTypes]
  by_cases h : s.hasColumn column = true <;> simp [h]

@[simp] theorem mapKeys_recordTypes : (c.recordTypes s).mapKeys = s.mapKeys := by
  have hkept (columns : List String) (t : ViewState) :
      (columns.foldl (fun t n => t.insertColumn n (c.targetType? s n)) t).mapKeys = t.mapKeys := by
    induction columns generalizing t with
    | nil => rfl
    | cons n rest ih => exact ih (t.insertColumn n (c.targetType? s n))
  exact hkept s.columnNames s

@[simp] theorem keysOf_recordTypes : (c.recordTypes s).keysOf column = s.keysOf column := by
  simp [ViewState.keysOf]

@[simp] theorem contains_recordTypes {x : Exposure} :
    (c.recordTypes s).contains x = s.contains x := by
  obtain ⟨column, _ | key⟩ := x <;> simp [ViewState.contains]

@[simp] theorem isKeyed_recordTypes : (c.recordTypes s).isKeyed column = s.isKeyed column := by
  simp [ViewState.isKeyed]

@[simp] theorem targetType?_extend :
    c.targetType? (s.extend xs) column = c.targetType? s column := by
  simp [targetType?]

/-- The type that is recorded for a column is the one that it has had. -/
@[simp] theorem targetType?_recordTypes :
    c.targetType? (c.recordTypes s) column = c.targetType? s column := by
  have hunknown (h : ¬ s.hasColumn column = true) : s.columnType? column = none := by
    by_contra hknown
    exact h (ViewState.hasColumn_of_columnType?_ne_none hknown)
  rw [targetType?, targetType?, columnType?_recordTypes]
  by_cases h : s.hasColumn column = true
  · rw [if_pos h, targetType?]
    cases c.table.declaredType? c.target column <;> cases s.columnType? column <;> simp
  · rw [if_neg h, hunknown h]

/-- It makes no difference whether types are recorded before more is exposed or only afterwards. -/
theorem recordTypes_extend_recordTypes :
    c.recordTypes ((c.recordTypes s).extend xs) = c.recordTypes (s.extend xs) := by
  have hcolumns (n : String) :
      ((c.recordTypes s).extend xs).hasColumn n = (s.extend xs).hasColumn n := by
    rw [Bool.eq_iff_iff, ViewState.hasColumn_extend, ViewState.hasColumn_extend,
      hasColumn_recordTypes]
  refine ViewState.ext_of_observed (fun n => ?_) (fun n => ?_) (fun n => ?_) fun n => ?_
  · rw [hasColumn_recordTypes, hasColumn_recordTypes, hcolumns]
  · rw [columnType?_recordTypes, columnType?_recordTypes, hcolumns, targetType?_extend,
      targetType?_extend, targetType?_recordTypes]
  · rw [isKeyed_recordTypes, isKeyed_recordTypes, Bool.eq_iff_iff, ViewState.isKeyed_extend,
      ViewState.isKeyed_extend, isKeyed_recordTypes]
  · refine Std.ExtTreeSet.ext_mem fun key => ?_
    rw [keysOf_recordTypes, keysOf_recordTypes, ViewState.mem_keysOf_extend,
      ViewState.mem_keysOf_extend, keysOf_recordTypes]

/-! ### Rendering every column -/

theorem exists_render_of_isOk (h : (c.render s).value.isOk = true) :
    ∃ d, (c.render s).value = .ok d := by
  cases hrender : (c.render s).value with
  | error e =>
      rw [hrender] at h
      cases h
  | ok d => exact ⟨d, rfl⟩

/-- A state is rendered just if each of its columns is. -/
theorem exists_render_iff : (∃ d, (c.render s).value = .ok d) ↔
    ∀ column, s.hasColumn column = true → ∃ value, c.Renders s column value := by
  constructor
  · rintro ⟨d, hrender⟩ column hcolumn
    obtain ⟨-, -, hitems⟩ := value_render_eq_ok_iff.mp hrender
    obtain ⟨item, -, -, hvalue⟩ := exists_item hitems (ViewState.mem_columnNames.mpr hcolumn)
    exact ⟨item.value, hvalue⟩
  · intro h
    exact exists_render fun column hcolumn => h column (ViewState.mem_columnNames.mp hcolumn)

/-- Rendering looks at the columns, their types and their keys only. -/
theorem render_congr (hcolumns : ∀ n, s.hasColumn n = t.hasColumn n)
    (htypes : ∀ n, c.targetType? s n = c.targetType? t n)
    (hkeys : ∀ n, s.keysOf n = t.keysOf n) : c.render s = c.render t := by
  have hcolumn (n : String) : c.renderColumn s n = c.renderColumn t n := by
    rw [renderColumn, renderColumn, htypes, hkeys]
  have hall (names : List String) : c.renderColumns s names = c.renderColumns t names := by
    induction names with
    | nil => rfl
    | cons n names ih => rw [renderColumns, renderColumns, hcolumn, ih]
  rw [render, render, ViewState.columnNames_congr hcolumns, hall]

/-- So it makes no difference to it whether the types were recorded. -/
theorem render_extend_recordTypes :
    c.render ((c.recordTypes s).extend xs) = c.render (s.extend xs) := by
  refine render_congr (fun n => ?_) (fun n => ?_) fun n => ?_
  · rw [Bool.eq_iff_iff, ViewState.hasColumn_extend, ViewState.hasColumn_extend,
      hasColumn_recordTypes]
  · rw [targetType?_extend, targetType?_extend, targetType?_recordTypes]
  · refine Std.ExtTreeSet.ext_mem fun key => ?_
    rw [ViewState.mem_keysOf_extend, ViewState.mem_keysOf_extend, keysOf_recordTypes]

/-- A column is rendered in the same way if the NULL of its type is the same and, where it is
assembled, its keys are. -/
theorem Renders.transfer {value : ColumnValue} (h : c.Renders s column value)
    (hnull : ∀ type literal, c.targetType? s column = some type →
      type.nullLiteral? = some literal →
        ∃ own, c.targetType? t column = some own ∧ own.nullLiteral? = some literal)
    (hkeys : ∀ m, (c.crosswalk.resolve column).value = .ok (.assembly m) →
      t.keysOf column = s.keysOf column) : c.Renders t column value := by
  obtain ⟨resolution, hresolution, hyields⟩ := h
  refine ⟨resolution, hresolution, ?_⟩
  cases hyields with
  | expr complete => exact .expr complete
  | null missing typed rendered =>
      obtain ⟨own, hown, hliteral⟩ := hnull _ _ typed rendered
      exact .null missing hown hliteral
  | noKeys keyless => exact .noKeys (by rw [hkeys _ hresolution, keyless])
  | map keyed =>
      rw [← hkeys _ hresolution] at keyed ⊢
      exact .map keyed

/-- If this holds of all columns the definition is the same. -/
theorem value_render_eq_ok_of_transfer {d : ViewDefinition}
    (hcolumns : ∀ n, t.hasColumn n = s.hasColumn n)
    (hrenders : ∀ n value, c.Renders s n value → c.Renders t n value)
    (h : (c.render s).value = .ok d) : (c.render t).value = .ok d := by
  obtain ⟨hview, hsource, hitems⟩ := value_render_eq_ok_iff.mp h
  refine value_render_eq_ok_iff.mpr ⟨hview, hsource, ?_⟩
  rw [ViewState.columnNames_congr hcolumns]
  exact hitems.imp fun n item hitem => ⟨hitem.1, hrenders n item.value hitem.2⟩

/-- Whether a column is rendered does not depend on its keys. -/
theorem exists_renders_of_targetType?_eq (htype : c.targetType? s column = c.targetType? t column)
    (h : ∃ value, c.Renders s column value) : ∃ value, c.Renders t column value := by
  obtain ⟨value, resolution, hresolution, hyields⟩ := h
  cases hyields with
  | expr complete => exact ⟨_, _, hresolution, .expr complete⟩
  | null missing typed rendered =>
      exact ⟨_, _, hresolution, .null missing (htype ▸ typed) rendered⟩
  | noKeys | map =>
      by_cases hkeys : t.keysOf column = ∅
      · exact ⟨_, _, hresolution, .noKeys hkeys⟩
      · exact ⟨_, _, hresolution, .map hkeys⟩

/-- What is rendered together with more is rendered without it. -/
theorem exists_render_of_extend (h : ∃ d, (c.render (s.extend xs)).value = .ok d) :
    ∃ d, (c.render s).value = .ok d := by
  rw [exists_render_iff] at h ⊢
  intro column hcolumn
  exact exists_renders_of_targetType?_eq targetType?_extend
    (h column (ViewState.hasColumn_extend.mpr (Or.inl hcolumn)))

/-! ### Compiling -/

/-- The state that a compilation starts from: the known one, or what the live view exposes. -/
def start (c : Compiler) (engine : Engine σ) : Snapshot → Action σ ViewState
  | .fresh => ViewState.introspect engine c.table c.viewName
  | .compiled s => pure s

/-- What a request makes the view expose, in order. -/
def requested (c : Compiler) (request : Request) : List Exposure :=
  (c.exposuresOf request).toList

theorem mem_requested {request : Request} {x : Exposure} :
    x ∈ c.requested request ↔ ∃ f ∈ request.fields, c.crosswalk.exposureOf f = x := by
  rw [requested, Std.ExtTreeSet.mem_toList, exposuresOf, Std.ExtTreeSet.mem_ofList,
    List.contains_iff_mem, List.mem_map]
  simp only [Request.toList, Std.ExtTreeSet.mem_toList]

/-- In generation two a field is exposed as it is requested. -/
theorem exposureOf_eq (htarget : c.target = .two) (f : Field) :
    c.crosswalk.exposureOf f = ⟨f.head, f.tail⟩ := by
  have hcrosswalk : c.crosswalk.target = .two := htarget
  cases f with
  | plain name => rfl
  | mapKey container key =>
      rw [Crosswalk.exposureOf, hcrosswalk]
      rfl

/-- So the keys that it is made to expose are those that are requested. -/
theorem ofKey_mem_requested (htarget : c.target = .two) {request : Request} {key : String} :
    .ofKey column key ∈ c.requested request ↔ .mapKey column key ∈ request.fields := by
  rw [mem_requested]
  constructor
  · rintro ⟨f, hf, hexposure⟩
    rw [exposureOf_eq htarget] at hexposure
    cases f with
    | plain name => cases hexposure
    | mapKey container own =>
        cases hexposure
        exact hf
  · intro hf
    exact ⟨_, hf, exposureOf_eq htarget _⟩

/-- A view that is known to expose all that is requested. -/
def UpToDate (c : Compiler) (snapshot : Snapshot) (request : Request) : Prop :=
  ∃ s, snapshot = .compiled s ∧ ∀ x ∈ c.requested request, s.contains x = true

theorem not_upToDate_fresh {request : Request} : ¬ c.UpToDate .fresh request := by
  rintro ⟨s, hs, -⟩
  cases hs

/-- A view that is up to date is left alone: the engine is asked for nothing. -/
theorem result_compile_of_upToDate (engine : Engine σ) {snapshot : Snapshot} {request : Request}
    (h : c.UpToDate snapshot request) (world : σ) :
    (c.compile engine snapshot request).result world = (.ok ⟨none, snapshot⟩, world) := by
  obtain ⟨s, rfl, hcontains⟩ := h
  have hcovers : s.covers (c.requested request) = true := ViewState.covers_iff.mpr hcontains
  rw [requested] at hcovers
  simp [compile, hcovers]

/-- Otherwise the state that the compilation starts from is extended and deployed. -/
theorem result_compile_of_not_upToDate (engine : Engine σ) {snapshot : Snapshot}
    {request : Request} (h : ¬ c.UpToDate snapshot request) (world : σ) :
    (c.compile engine snapshot request).result world =
      (c.deploy engine
          (((c.start engine snapshot).result world).1.extend (c.requested request))).result
        ((c.start engine snapshot).result world).2 := by
  cases snapshot with
  | fresh => rfl
  | compiled s =>
      have hcovers : ¬ s.covers (c.requested request) = true := by
        intro hcovers
        exact h ⟨s, rfl, ViewState.covers_iff.mp hcovers⟩
      rw [requested] at hcovers
      rw [compile]
      simp only [hcovers]
      rfl

/-- A deployment ends where a column cannot be rendered, or where the engine refuses the definition;
otherwise the definition is executed and the types are recorded. -/
theorem result_deploy (engine : Engine σ) (world : σ) :
    (c.deploy engine s).result world =
      match (c.render s).value with
      | .error e => (.error (.unknownField e), world)
      | .ok d =>
        match (engine.execute d.sql).result world with
        | (.error e, later) => (.error (.catalog e), later)
        | (.ok (), later) => (.ok ⟨some d, .compiled (c.recordTypes s)⟩, later) := by
  rw [deploy, Action.result_bind, Action.result_liftM]
  cases (c.render s).value with
  | error e => rfl
  | ok d =>
      simp only [Action.result_bind, Action.result_tell]
      rcases (engine.execute d.sql).result world with ⟨e | ⟨⟩, later⟩ <;> rfl

theorem result_deploy_eq_ok_iff (engine : Engine σ) {world later : σ} {o : Outcome} :
    (c.deploy engine s).result world = (.ok o, later) ↔
      ∃ d, (c.render s).value = .ok d ∧
        (engine.execute d.sql).result world = (.ok (), later) ∧
          o = ⟨some d, .compiled (c.recordTypes s)⟩ := by
  rw [result_deploy]
  cases (c.render s).value with
  | error e => simp
  | ok d =>
      simp only [Except.ok.injEq, exists_eq_left']
      rcases (engine.execute d.sql).result world with ⟨e | ⟨⟩, last⟩
      · simp
      · simp [eq_comm, and_comm]

/-- A compilation succeeds just if the view is up to date, or if the extended state is rendered
and its definition executed. -/
theorem result_compile_eq_ok_iff (engine : Engine σ) {snapshot : Snapshot} {request : Request}
    {world later : σ} {o : Outcome} :
    (c.compile engine snapshot request).result world = (.ok o, later) ↔
      (c.UpToDate snapshot request ∧ o = ⟨none, snapshot⟩ ∧ later = world) ∨
      (¬ c.UpToDate snapshot request ∧
        ∃ s between d,
          (c.start engine snapshot).result world = (s, between) ∧
          (c.render (s.extend (c.requested request))).value = .ok d ∧
          (engine.execute d.sql).result between = (.ok (), later) ∧
          o = ⟨some d, .compiled (c.recordTypes (s.extend (c.requested request)))⟩) := by
  by_cases h : c.UpToDate snapshot request
  · rw [result_compile_of_upToDate engine h]
    simp [h, eq_comm]
  · rw [result_compile_of_not_upToDate engine h, result_deploy_eq_ok_iff]
    rcases (c.start engine snapshot).result world with ⟨s, between⟩
    simp [h]

end Compiler
end CostView
