import CostView.Proofs.DeclaredColumns
import CostView.Proofs.Releases

/-!
# When an assembled key survives

Deployments of one view of generation two may follow each other over sources of either generation,
and all that one of them knows of the others is the catalog.  Over a source of generation two the
maps are passed through, so the text of the view holds no keys and the next deployment reads none
back.  So a key that was assembled once is assembled again just if no such deployment came between,
or if the key was requested anew after the last one.
-/

namespace CostView

open FieldTable (builtIn)

/-- A deployment that succeeded: the compiler, what was requested, and the outcome. -/
structure Deployment where
  compiler : Compiler
  request : Request
  outcome : Outcome

namespace Deployment

/-- A deployment of a view of generation two, over the built-in table and a plainly named source,
with readable requests. -/
structure Of (view : String) (d : Deployment) : Prop where
  table : d.compiler.table = builtIn
  target : d.compiler.target = .two
  name : Settings.isTableName d.compiler.source.name = true
  view : d.compiler.viewName = view
  readable : ∀ f ∈ d.request.fields, f.Readable

/-- Whether the maps are assembled, since the source has none. -/
def OverFlat (d : Deployment) : Prop :=
  d.compiler.source.generation = .one

/-- Whether a key is requested. -/
def Requests (d : Deployment) (column key : String) : Prop :=
  .mapKey column key ∈ d.request.fields

/-- Whether the view that was created has a key in the assembled map of a column. -/
def Assembled (d : Deployment) (column key : String) : Prop :=
  ∃ definition, d.outcome.definition = some definition ∧
    ∃ item ∈ definition.items, ∃ keys, item.keysFor? column = some keys ∧ key ∈ keys

end Deployment

/-- Successful deployments, each compiled without a snapshot and then registered. -/
inductive Deploys : Catalog → List Deployment → Catalog → Prop
  | nil (catalog : Catalog) : Deploys catalog [] catalog
  | cons {catalog between later : Catalog} {d : Deployment} {ds : List Deployment}
      (compiled : (d.compiler.compile Catalog.engine .fresh d.request).result catalog =
        (.ok d.outcome, between))
      (rest : Deploys (d.compiler.register d.outcome between) ds later) :
      Deploys catalog (d :: ds) later

section

variable {catalog between later : Catalog} {view column key : String} {d : Deployment}
  {ds : List Deployment}

/-! ### One deployment -/

/-- The state that a deployment makes the view expose. -/
def Deployment.state (d : Deployment) (catalog : Catalog) : ViewState :=
  (catalog.readBack builtIn d.compiler.viewName).extend (d.compiler.requested d.request)

/-- A deployment renders the state that was read back with what is requested. -/
theorem Deployment.Of.rendered (h : d.Of view)
    (hcompiled : (d.compiler.compile Catalog.engine .fresh d.request).result catalog =
      (.ok d.outcome, between)) :
    ∃ definition, (d.compiler.render (d.state catalog)).value = .ok definition ∧
      d.outcome = ⟨some definition, .compiled (d.compiler.recordTypes (d.state catalog))⟩ := by
  rcases (Compiler.result_compile_eq_ok_iff Catalog.engine).mp hcompiled with
    ⟨⟨s, hs, -⟩, -⟩ | ⟨-, s, start, definition, hs, hrender, -, houtcome⟩
  · cases hs
  · have hstate : s = catalog.readBack builtIn d.compiler.viewName := by
      rw [Compiler.result_start] at hs
      have hread : d.compiler.readBack catalog = s := congrArg Prod.fst hs
      rw [← hread, Compiler.readBack, h.table]
    subst hstate
    exact ⟨definition, hrender, houtcome⟩

/-- A key of the state is one that was read back or requested. -/
theorem Deployment.Of.mem_keysOf_state (h : d.Of view) :
    key ∈ (d.state catalog).keysOf column ↔
      key ∈ (catalog.readBack builtIn view).keysOf column ∨ d.Requests column key := by
  rw [Deployment.state, h.view, ViewState.mem_keysOf_extend,
    Compiler.ofKey_mem_requested h.target]
  rfl

/-- No key of the state holds a closing bracket. -/
theorem Deployment.Of.notMem_keys (h : d.Of view) :
    ∀ column, ∀ key ∈ (d.state catalog).keysOf column, ']' ∉ key.toList := by
  intro column key hkey
  rcases h.mem_keysOf_state.mp hkey with hold | hrequest
  · exact Catalog.notMem_of_readBack hold
  · exact (h.readable _ hrequest).tail key rfl

/-- Every key of the state stands under an exposed column. -/
theorem Deployment.wellKeyed_state : (d.state catalog).WellKeyed :=
  ViewState.WellKeyed.extend (ViewState.wellKeyed_introspect _ _ _ _)

theorem Deployment.Of.lowered_column (h : d.Of view)
    (hcolumn : (d.state catalog).hasColumn column = true) : Text.lowered column = column := by
  rcases ViewState.hasColumn_extend.mp hcolumn with hold | ⟨x, hx, rfl⟩
  · exact Catalog.lowered_of_readBack hold
  · obtain ⟨f, hf, rfl⟩ := Compiler.mem_requested.mp hx
    exact (h.readable f hf).lowered_exposure d.compiler.crosswalk

theorem Deployment.Of.assembles (h : d.Of view) (hflat : d.OverFlat) : d.compiler.Assembles :=
  ⟨⟨h.table, hflat, h.target⟩, h.name⟩

theorem Deployment.Of.passes (h : d.Of view) (hflat : ¬ d.OverFlat) : d.compiler.Passes := by
  refine ⟨h.table, Or.inl ?_, h.name⟩
  cases hsource : d.compiler.source.generation with
  | one => exact absurd hsource hflat
  | two => rfl

/-- What is read back after a deployment has the columns of its state. -/
theorem Deployment.Of.hasColumn_register (h : d.Of view)
    (hcompiled : (d.compiler.compile Catalog.engine .fresh d.request).result catalog =
      (.ok d.outcome, between)) :
    ((d.compiler.register d.outcome between).readBack builtIn view).hasColumn column =
      (d.state catalog).hasColumn column := by
  obtain ⟨definition, -, houtcome⟩ := h.rendered hcompiled
  have hregistered := Compiler.getElem?_register (c := d.compiler) definition
    (d.compiler.recordTypes (d.state catalog)) between
  rw [h.view] at hregistered
  have hlowered : ∀ other, (d.compiler.recordTypes (d.state catalog)).hasColumn other = true →
      Text.lowered other = other := by
    intro other hother
    rw [Compiler.hasColumn_recordTypes] at hother
    exact h.lowered_column hother
  rw [houtcome, Catalog.readBack, ViewState.introspect_of_registered hregistered,
    ViewState.hasColumn_withKeys, ViewState.hasColumn_reported_infos hlowered,
    Compiler.hasColumn_recordTypes]

/-- A map column has a key after a deployment just if the deployment assembled it, from a key that
was read back or requested. -/
theorem Deployment.Of.mem_keysOf_register (h : d.Of view)
    (hcompiled : (d.compiler.compile Catalog.engine .fresh d.request).result catalog =
      (.ok d.outcome, between))
    (hcolumns : ∀ column, (d.state catalog).hasColumn column = true → ']' ∉ column.toList)
    (hmap : builtIn.isMapField column = true) :
    key ∈ ((d.compiler.register d.outcome between).readBack builtIn view).keysOf column ↔
      d.OverFlat ∧
        (key ∈ (catalog.readBack builtIn view).keysOf column ∨ d.Requests column key) := by
  obtain ⟨definition, hrender, houtcome⟩ := h.rendered hcompiled
  rw [houtcome, ← h.mem_keysOf_state]
  by_cases hflat : d.OverFlat
  · obtain ⟨-, hread⟩ := (h.assembles hflat).introspect_register h.notMem_keys hrender between
    rw [h.table, h.view] at hread
    refine (hread column key).trans ⟨fun hkey => ⟨hflat, hkey.2.2⟩, fun hkey => ?_⟩
    exact ⟨hmap, Deployment.wellKeyed_state column key hkey.2, hkey.2⟩
  · have hnames : ∀ column, (d.state catalog).hasColumn column = true →
        Text.lowered column = column ∧ ']' ∉ column.toList :=
      fun column hcolumn => ⟨h.lowered_column hcolumn, hcolumns column hcolumn⟩
    have hread := (h.passes hflat).introspect_register hnames hrender between
    rw [h.table, h.view] at hread
    have hnone := (hread column).2
    constructor
    · intro hkey
      rw [Catalog.readBack, hnone] at hkey
      simp at hkey
    · rintro ⟨hflat', -⟩
      exact absurd hflat' hflat

/-- A deployment over a flat source assembles just the keys of its state. -/
theorem Deployment.Of.assembled_iff (h : d.Of view) (hflat : d.OverFlat)
    (hcompiled : (d.compiler.compile Catalog.engine .fresh d.request).result catalog =
      (.ok d.outcome, between)) :
    d.Assembled column key ↔
      builtIn.isMapField column = true ∧ key ∈ (d.state catalog).keysOf column := by
  obtain ⟨definition, hrender, houtcome⟩ := h.rendered hcompiled
  have hgives {keys : List String} :
      (∃ item ∈ definition.items, item.keysFor? column = some keys) ↔ _ :=
    (h.assembles hflat).exists_keysFor?_iff h.notMem_keys hrender
  rw [Deployment.Assembled, houtcome]
  constructor
  · rintro ⟨given, hgiven, item, hitem, keys, hown, hkey⟩
    obtain rfl : definition = given := Option.some.inj hgiven
    obtain ⟨-, hmap, -, rfl⟩ := hgives.mp ⟨item, hitem, hown⟩
    exact ⟨hmap, Std.ExtTreeSet.mem_toList.mp hkey⟩
  · rintro ⟨hmap, hkey⟩
    have hcolumn := Deployment.wellKeyed_state column key hkey
    obtain ⟨item, hitem, hown⟩ :=
      hgives.mpr ⟨hcolumn, hmap, Std.ExtTreeSet.ne_empty_of_mem hkey, rfl⟩
    exact ⟨definition, rfl, item, hitem, _, hown, Std.ExtTreeSet.mem_toList.mpr hkey⟩

/-! ### Many deployments -/

/-- No deployment takes a column away. -/
theorem Deploys.hasColumn (hdeploys : Deploys catalog ds later) (h : ∀ d ∈ ds, d.Of view)
    (hcolumn : (catalog.readBack builtIn view).hasColumn column = true) :
    (later.readBack builtIn view).hasColumn column = true := by
  induction hdeploys with
  | nil catalog => exact hcolumn
  | @cons catalog between later d ds compiled _ ih =>
      have hd := h d List.mem_cons_self
      refine ih (fun e he => h e (List.mem_cons_of_mem d he)) ?_
      rw [hd.hasColumn_register compiled, Deployment.state, hd.view]
      exact ViewState.hasColumn_extend.mpr (Or.inl hcolumn)

/-- Whether a key was requested by a deployment from which on all sources were flat. -/
def RequestedSince (ds : List Deployment) (column key : String) : Prop :=
  ∃ before d after, ds = before ++ d :: after ∧ d.Requests column key ∧
    ∀ e ∈ d :: after, e.OverFlat

theorem requestedSince_nil : ¬ RequestedSince [] column key := by
  rintro ⟨before, d, after, hsplit, -⟩
  simp at hsplit

theorem requestedSince_cons : RequestedSince (d :: ds) column key ↔
    (d.Requests column key ∧ ∀ e ∈ d :: ds, e.OverFlat) ∨ RequestedSince ds column key := by
  constructor
  · rintro ⟨before, e, after, hsplit, hrequest, hflat⟩
    cases before with
    | nil =>
        obtain ⟨rfl, rfl⟩ := List.cons.inj hsplit
        exact Or.inl ⟨hrequest, hflat⟩
    | cons other before =>
        obtain ⟨rfl, rfl⟩ := List.cons.inj hsplit
        exact Or.inr ⟨before, e, after, rfl, hrequest, hflat⟩
  · rintro (⟨hrequest, hflat⟩ | ⟨before, e, after, rfl, hrequest, hflat⟩)
    · exact ⟨[], d, ds, rfl, hrequest, hflat⟩
    · exact ⟨d :: before, e, after, rfl, hrequest, hflat⟩

theorem requestedSince_concat {last : Deployment} (hlast : last.OverFlat) :
    RequestedSince (ds ++ [last]) column key ↔
      RequestedSince ds column key ∨ last.Requests column key := by
  induction ds with
  | nil => simp [requestedSince_cons, requestedSince_nil, hlast]
  | cons d ds ih =>
      have hflat : (∀ e ∈ d :: (ds ++ [last]), e.OverFlat) ↔ ∀ e ∈ d :: ds, e.OverFlat := by
        simp [or_imp, forall_and, hlast]
      rw [List.cons_append, requestedSince_cons, requestedSince_cons, ih, hflat, or_assoc]

/-- What some deployments leave of a map column: the keys that they found, if all sources were flat,
and the keys that were requested since the last one that was not. -/
theorem Deploys.mem_keysOf (hdeploys : Deploys catalog ds later) (h : ∀ d ∈ ds, d.Of view)
    (hcolumns : ∀ column, (later.readBack builtIn view).hasColumn column = true →
      ']' ∉ column.toList)
    (hmap : builtIn.isMapField column = true) :
    key ∈ (later.readBack builtIn view).keysOf column ↔
      ((∀ d ∈ ds, d.OverFlat) ∧ key ∈ (catalog.readBack builtIn view).keysOf column) ∨
        RequestedSince ds column key := by
  induction hdeploys with
  | nil catalog => simp [requestedSince_nil]
  | @cons catalog between later d ds compiled rest ih =>
      have hd := h d List.mem_cons_self
      have hrest : ∀ e ∈ ds, e.Of view := fun e he => h e (List.mem_cons_of_mem d he)
      -- The columns of the state are still there at the end.
      have hstate : ∀ column, (d.state catalog).hasColumn column = true → ']' ∉ column.toList := by
        intro column hcolumn
        rw [← hd.hasColumn_register compiled] at hcolumn
        exact hcolumns column (rest.hasColumn hrest hcolumn)
      rw [ih hrest hcolumns, hd.mem_keysOf_register compiled hstate hmap, requestedSince_cons]
      simp only [List.forall_mem_cons]
      constructor
      · rintro (⟨hall, hflat, hfound | hrequest⟩ | hsince)
        · exact Or.inl ⟨⟨hflat, hall⟩, hfound⟩
        · exact Or.inr (Or.inl ⟨hrequest, hflat, hall⟩)
        · exact Or.inr (Or.inr hsince)
      · rintro (⟨⟨hflat, hall⟩, hfound⟩ | ⟨hrequest, hflat, hall⟩ | hsince)
        · exact Or.inl ⟨hall, hflat, Or.inl hfound⟩
        · exact Or.inl ⟨hall, hflat, Or.inr hrequest⟩
        · exact Or.inr hsince

theorem Deploys.of_concat {last : Deployment} (hdeploys : Deploys catalog (ds ++ [last]) later) :
    ∃ middle after, Deploys catalog ds middle ∧
      (last.compiler.compile Catalog.engine .fresh last.request).result middle =
        (.ok last.outcome, after) := by
  induction ds generalizing catalog with
  | nil =>
      cases hdeploys with
      | cons compiled _ => exact ⟨_, _, .nil _, compiled⟩
  | cons d ds ih =>
      cases hdeploys with
      | cons compiled rest =>
          obtain ⟨middle, after, hmiddle, hlast⟩ := ih rest
          exact ⟨middle, after, .cons compiled hmiddle, hlast⟩

/-- What the last of some deployments assembles, if its source is flat. -/
theorem Deploys.assembled_last {last : Deployment} (hdeploys : Deploys catalog (ds ++ [last]) later)
    (h : ∀ d ∈ ds ++ [last], d.Of view) (hlast : last.OverFlat) :
    last.Assembled column key ↔ builtIn.isMapField column = true ∧
      (((∀ d ∈ ds, d.OverFlat) ∧ key ∈ (catalog.readBack builtIn view).keysOf column) ∨
        RequestedSince (ds ++ [last]) column key) := by
  obtain ⟨middle, after, hmiddle, hcompiled⟩ := hdeploys.of_concat
  have hds : ∀ d ∈ ds, d.Of view := fun d hd => h d (List.mem_append_left _ hd)
  have hof : last.Of view := h last (List.mem_append_right _ List.mem_cons_self)
  -- The last deployment renders every column, so all of them have plain names.
  have hcolumns : ∀ column, (middle.readBack builtIn view).hasColumn column = true →
      ']' ∉ column.toList := by
    intro column hcolumn
    obtain ⟨definition, hrender, -⟩ := hof.rendered hcompiled
    have hstate : (last.state middle).hasColumn column = true := by
      rw [Deployment.state, hof.view]
      exact ViewState.hasColumn_extend.mpr (Or.inl hcolumn)
    have hplain :=
      ((hof.assembles hlast).getElem?_recordTypes hof.notMem_keys hrender hstate).1
    exact (Column.notMem_of_not_needsQuoting hplain).1
  rw [hof.assembled_iff hlast hcompiled]
  refine and_congr_right fun hmap => ?_
  rw [hof.mem_keysOf_state, hmiddle.mem_keysOf hds hcolumns hmap, requestedSince_concat hlast,
    or_assoc]

/-- A key that was assembled once is assembled again by a later deployment over a flat source just
if all sources in between were flat, or the key was requested since the last one that was not.  What
was deployed before does not matter, so the catalog is any. -/
theorem Deploys.assembled_again_iff {first last : Deployment}
    (hdeploys : Deploys catalog (first :: (ds ++ [last])) later)
    (h : ∀ d ∈ first :: (ds ++ [last]), d.Of view) (hfirst : first.OverFlat) (hlast : last.OverFlat)
    (hkey : first.Assembled column key) :
    last.Assembled column key ↔
      (∀ d ∈ ds, d.OverFlat) ∨ RequestedSince (ds ++ [last]) column key := by
  obtain ⟨hmap, hfound⟩ : builtIn.isMapField column = true ∧
      (key ∈ (catalog.readBack builtIn view).keysOf column ∨ first.Requests column key) := by
    cases hdeploys with
    | cons compiled _ =>
        have hof : first.Of view := h first List.mem_cons_self
        rwa [hof.assembled_iff hfirst compiled, hof.mem_keysOf_state] at hkey
  rw [← List.cons_append] at hdeploys h
  rw [hdeploys.assembled_last h hlast, List.cons_append, requestedSince_cons]
  constructor
  · rintro ⟨-, ⟨hall, -⟩ | ⟨-, hall⟩ | hsince⟩
    · exact Or.inl fun d hd => hall d (List.mem_cons_of_mem first hd)
    · exact Or.inl fun d hd => hall d (List.mem_cons_of_mem first (List.mem_append_left _ hd))
    · exact Or.inr hsince
  · rintro (hall | hsince)
    · refine ⟨hmap, ?_⟩
      rcases hfound with hold | hrequest
      · exact Or.inl ⟨List.forall_mem_cons.mpr ⟨hfirst, hall⟩, hold⟩
      · refine Or.inr (Or.inl ⟨hrequest, List.forall_mem_cons.mpr ⟨hfirst, ?_⟩⟩)
        exact List.forall_mem_append.mpr ⟨hall, List.forall_mem_singleton.mpr hlast⟩
    · exact ⟨hmap, Or.inr (Or.inr hsince)⟩

/-! ### Deployments that succeed -/

/-- In the layout of generation two a map column is always rendered. -/
theorem exists_renders_of_isMapField {c : Compiler} {s : ViewState} (htable : c.table = builtIn)
    (htarget : c.target = .two) (hmap : builtIn.isMapField column = true) :
    ∃ value, c.Renders s column value := by
  obtain ⟨m, hm⟩ := FieldTable.isMapField_iff.mp hmap
  obtain ⟨hmem, rfl⟩ := FieldTable.of_mapField? hm
  refine Compiler.exists_renders_of_hasNull ?_
  rw [htable, htarget]
  exact FieldTable.hasNull_container hmem

/-- A catalog that accepts statements and in which the view has no columns but map columns. -/
structure Ready (view : String) (catalog : Catalog) : Prop where
  accepting : catalog.refusal = none
  maps : ∀ column, (catalog.readBack builtIn view).hasColumn column = true →
    builtIn.isMapField column = true

theorem refusal_register (c : Compiler) (o : Outcome) :
    (c.register o catalog).refusal = catalog.refusal := by
  unfold Compiler.register
  split <;> rfl

/-- There a deployment succeeds that requests map columns and keys only. -/
theorem Ready.deploy (h : Ready view catalog) {c : Compiler} {request : Request}
    (hof : ∀ o, Deployment.Of view ⟨c, request, o⟩)
    (hmaps : ∀ f ∈ request.fields, builtIn.isMapField f.head = true) :
    ∃ o between, (c.compile Catalog.engine .fresh request).result catalog = (.ok o, between) ∧
      Ready view (c.register o between) := by
  have hany := hof ⟨none, .fresh⟩
  have hread : c.readBack catalog = catalog.readBack builtIn view := by
    rw [Compiler.readBack, hany.table, hany.view]
  have hcolumns : ∀ column,
      ((c.readBack catalog).extend (c.requested request)).hasColumn column = true →
        builtIn.isMapField column = true := by
    intro column hcolumn
    rcases ViewState.hasColumn_extend.mp hcolumn with hold | ⟨x, hx, rfl⟩
    · rw [hread] at hold
      exact h.maps column hold
    · obtain ⟨f, hf, rfl⟩ := Compiler.mem_requested.mp hx
      rw [Compiler.exposureOf_eq hany.target]
      exact hmaps f hf
  obtain ⟨definition, hrender⟩ := Compiler.exists_render fun column hcolumn =>
    exists_renders_of_isMapField hany.table hany.target
      (hcolumns column (ViewState.mem_columnNames.mp hcolumn))
  obtain ⟨o, hcompiled⟩ : ∃ o, (c.compile Catalog.engine .fresh request).result catalog =
      (.ok o, catalog.afterStatement definition.sql) :=
    ⟨_, Compiler.result_compile_fresh h.accepting hrender⟩
  have haccepting : (c.register o (catalog.afterStatement definition.sql)).refusal = none := by
    rw [refusal_register, Catalog.refusal_afterStatement, h.accepting]
  refine ⟨o, _, hcompiled, haccepting, fun column hcolumn => hcolumns column ?_⟩
  rw [hread, ← hany.view]
  rwa [(hof o).hasColumn_register hcompiled] at hcolumn

/-- So does every deployment of a plan of such requests. -/
theorem Ready.deploys (h : Ready view catalog) (plan : List (Compiler × Request))
    (hof : ∀ step ∈ plan, ∀ o, Deployment.Of view ⟨step.1, step.2, o⟩)
    (hmaps : ∀ step ∈ plan, ∀ f ∈ step.2.fields, builtIn.isMapField f.head = true) :
    ∃ ds later, ds.map (fun d => (d.compiler, d.request)) = plan ∧ (∀ d ∈ ds, d.Of view) ∧
      Deploys catalog ds later := by
  induction plan generalizing catalog with
  | nil => exact ⟨[], catalog, rfl, by simp, .nil catalog⟩
  | cons step plan ih =>
      obtain ⟨o, between, hcompiled, hnext⟩ :=
        h.deploy (hof step List.mem_cons_self) (hmaps step List.mem_cons_self)
      obtain ⟨ds, later, hplan, hds, hrest⟩ := ih hnext
        (fun other hother => hof other (List.mem_cons_of_mem step hother))
        (fun other hother => hmaps other (List.mem_cons_of_mem step hother))
      refine ⟨⟨step.1, step.2, o⟩ :: ds, later, ?_, ?_, .cons hcompiled hrest⟩
      · rw [List.map_cons, hplan]
      · exact List.forall_mem_cons.mpr ⟨hof step List.mem_cons_self o, hds⟩

theorem ready_ofTables (view : String) : Ready view (.ofTables ∅) := by
  refine ⟨rfl, fun column hcolumn => ?_⟩
  rw [Catalog.readBack_ofTables, ViewState.hasColumn_empty] at hcolumn
  cases hcolumn

end

/-! ### A source of generation two in between -/

/-- A compiler of a view of generation two over a source of the given generation. -/
def tagCompiler (g : Generation) : Compiler :=
  ⟨builtIn, ⟨"billing.cur", g, ∅⟩, .two⟩

/-- Requests for a key, and then twice for its map column alone. -/
def tagPlan (g : Generation) : List (Compiler × Request) :=
  [(tagCompiler .one, ⟨.ofList [Field.mapKey "resource_tags" "user_team"]⟩),
    (tagCompiler g, ⟨.ofList [Field.plain "resource_tags"]⟩),
    (tagCompiler .one, ⟨.ofList [Field.plain "resource_tags"]⟩)]

theorem of_tagCompiler {g : Generation} {field : Field} (h : field.Readable) (o : Outcome) :
    Deployment.Of "billing.cur2_proxy" ⟨tagCompiler g, ⟨.ofList [field]⟩, o⟩ := by
  have hname : Settings.isTableName "billing.cur" = true := by decide +kernel
  have hview : Compiler.qualifier "billing.cur" ++ Generation.two.viewName =
      "billing.cur2_proxy" := by
    decide +kernel
  refine ⟨rfl, rfl, hname, hview, fun f hf => ?_⟩
  rwa [eq_of_mem_ofList_singleton hf]

theorem of_tagPlan (g : Generation) : ∀ step ∈ tagPlan g, ∀ o,
    Deployment.Of "billing.cur2_proxy" ⟨step.1, step.2, o⟩ := by
  have hkey : (Field.mapKey "resource_tags" "user_team").Readable :=
    ⟨⟨"resource_tags['user_team']", by decide +kernel⟩, by decide +kernel⟩
  have hcolumn : (Field.plain "resource_tags").Readable :=
    ⟨⟨"resource_tags", by decide +kernel⟩, by decide +kernel⟩
  simp only [tagPlan, List.forall_mem_cons, List.not_mem_nil, false_implies, implies_true, and_true]
  exact ⟨of_tagCompiler hkey, of_tagCompiler hcolumn, of_tagCompiler hcolumn⟩

theorem isMapField_of_tagPlan (g : Generation) : ∀ step ∈ tagPlan g, ∀ f ∈ step.2.fields,
    builtIn.isMapField f.head = true := by
  have hmap : builtIn.isMapField "resource_tags" = true := by decide +kernel
  simp only [tagPlan, List.forall_mem_cons, List.not_mem_nil, false_implies, implies_true, and_true]
  refine ⟨fun f hf => ?_, fun f hf => ?_, fun f hf => ?_⟩ <;>
  · rw [eq_of_mem_ofList_singleton hf]
    exact hmap

/-- Deployments that carry out the plan are three, and only the first of them requests the key. -/
theorem of_map_eq_tagPlan {g : Generation} {ds : List Deployment}
    (h : ds.map (fun d => (d.compiler, d.request)) = tagPlan g) :
    ∃ first between last, ds = first :: ([between] ++ [last]) ∧ first.OverFlat ∧
      between.compiler.source.generation = g ∧ last.OverFlat ∧
      first.Requests "resource_tags" "user_team" ∧
      ∀ d ∈ [between, last], ¬ d.Requests "resource_tags" "user_team" := by
  rw [tagPlan, List.map_eq_cons_iff] at h
  obtain ⟨⟨_, _, _⟩, rest, rfl, ⟨⟩, hrest⟩ := h
  rw [List.map_eq_cons_iff] at hrest
  obtain ⟨⟨_, _, _⟩, rest, rfl, ⟨⟩, hrest⟩ := hrest
  rw [List.map_eq_singleton_iff] at hrest
  obtain ⟨⟨_, _, _⟩, rfl, ⟨⟩⟩ := hrest
  refine ⟨_, _, _, rfl, rfl, rfl, rfl, ?_, ?_⟩
  · simp [Deployment.Requests]
  · simp only [List.forall_mem_cons, List.not_mem_nil, false_implies, implies_true, and_true,
      Deployment.Requests]
    refine ⟨fun h => ?_, fun h => ?_⟩ <;> cases eq_of_mem_ofList_singleton h

/-- The plan can be carried out, and its first deployment assembles the key. -/
theorem exists_tagDeployments (g : Generation) :
    ∃ first between last later, Deploys (.ofTables ∅) (first :: ([between] ++ [last])) later ∧
      (∀ d ∈ first :: ([between] ++ [last]), d.Of "billing.cur2_proxy") ∧
      first.OverFlat ∧ between.compiler.source.generation = g ∧ last.OverFlat ∧
      first.Assembled "resource_tags" "user_team" ∧
      ∀ d ∈ [between, last], ¬ d.Requests "resource_tags" "user_team" := by
  obtain ⟨ds, later, hplan, hds, hdeploys⟩ := (ready_ofTables "billing.cur2_proxy").deploys
    (tagPlan g) (of_tagPlan g) (isMapField_of_tagPlan g)
  obtain ⟨first, between, last, rfl, hfirst, hbetween, hlast, hrequests, hothers⟩ :=
    of_map_eq_tagPlan hplan
  refine ⟨first, between, last, later, hdeploys, hds, hfirst, hbetween, hlast, ?_, hothers⟩
  have hof : first.Of "billing.cur2_proxy" := hds first List.mem_cons_self
  cases hdeploys with
  | cons compiled _ =>
      rw [hof.assembled_iff hfirst compiled, hof.mem_keysOf_state]
      exact ⟨by decide +kernel, Or.inr hrequests⟩

theorem assembled_again_over_flat_sources :
    ∃ first between last later, Deploys (.ofTables ∅) (first :: ([between] ++ [last])) later ∧
      (∀ d ∈ first :: ([between] ++ [last]), d.Of "billing.cur2_proxy") ∧
      first.OverFlat ∧ last.OverFlat ∧ first.Assembled "resource_tags" "user_team" ∧
      last.Assembled "resource_tags" "user_team" := by
  obtain ⟨first, between, last, later, hdeploys, hof, hfirst, hbetween, hlast, hkey, -⟩ :=
    exists_tagDeployments .one
  have hbetweenFlat : ∀ d ∈ [between], d.OverFlat := List.forall_mem_singleton.mpr hbetween
  have hagain := Deploys.assembled_again_iff hdeploys hof hfirst hlast hkey
  exact ⟨first, between, last, later, hdeploys, hof, hfirst, hlast, hkey,
    hagain.mpr (Or.inl hbetweenFlat)⟩

/-- A deployment over a source of generation two loses a key that was assembled before. -/
theorem assembled_key_lost :
    ¬ ∀ (catalog later : Catalog) (view column key : String) (first last : Deployment)
        (between : List Deployment),
      Deploys catalog (first :: (between ++ [last])) later →
      (∀ d ∈ first :: (between ++ [last]), d.Of view) → first.OverFlat → last.OverFlat →
      first.Assembled column key → last.Assembled column key := by
  intro halways
  obtain ⟨first, between, last, later, hdeploys, hof, hfirst, hbetween, hlast, hkey, hrequests⟩ :=
    exists_tagDeployments .two
  have hsurvives := halways _ _ _ _ _ first last [between] hdeploys hof hfirst hlast hkey
  rw [← List.cons_append] at hdeploys hof
  have hnotFlat : ¬ between.OverFlat := by
    rw [Deployment.OverFlat, hbetween]
    exact nofun
  obtain ⟨-, ⟨hall, -⟩ | hsince⟩ := (hdeploys.assembled_last hof hlast).mp hsurvives
  · exact hnotFlat (hall between (by simp))
  · -- Only the first deployment requested the key, and not all sources since were flat.
    rw [List.cons_append, requestedSince_cons] at hsince
    rcases hsince with ⟨-, hall⟩ | ⟨before, d, after, hsplit, hrequest, -⟩
    · exact hnotFlat (hall between (by simp))
    · refine hrequests d ?_ hrequest
      rw [← List.singleton_append, hsplit]
      simp

end CostView
