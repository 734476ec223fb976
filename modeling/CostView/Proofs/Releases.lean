import CostView.Proofs.FieldText
import CostView.Proofs.RegisteredView

/-!
# Releases of a view read back as they were compiled

A release compiles a view over the catalog in memory and registers it, either with the snapshot of
the release before or without any, in which case the state is read back from the catalog.  Both come
to the same: after every release what is read back is the state that was compiled.

What is kept from release to release is that the keys of the view are keys of its map columns and
that none of them holds a closing bracket, which is the documented limit of reading keys back.  A
view of generation one has no keys at all; of it the columns are kept.
-/

namespace CostView

open FieldTable (builtIn)

/-! ### Fields that can be read back -/

/-- A field that a text can name, without a closing bracket in its key. -/
structure Field.Readable (f : Field) : Prop where
  parsed : ∃ text, Field.parse builtIn text = .ok f
  tail : ∀ key, f.tail = some key → ']' ∉ key.toList

/-- Such a field without a closing bracket in its name either. -/
structure Field.Supported (f : Field) : Prop extends f.Readable where
  head : ']' ∉ f.head.toList

/-- What such a field makes a view expose has a name in lower case. -/
theorem Field.Readable.lowered_exposure {f : Field} (h : f.Readable) (t : Crosswalk) :
    Text.lowered (t.exposureOf f).column = (t.exposureOf f).column := by
  obtain ⟨⟨text, hparse⟩, -⟩ := h
  exact Field.lowered_exposure hparse t

/-! ### Releases -/

/-- A release: whether the snapshot of the one before is forgotten, and what is requested. -/
structure Release where
  forget : Bool
  request : Request

/-- The catalog after some releases, and the snapshot that the last of them returned. -/
structure Deployed where
  catalog : Catalog
  snapshot : Snapshot

/-- What is read back of a view. -/
def Catalog.readBack (catalog : Catalog) (table : FieldTable) (view : String) : ViewState :=
  ((ViewState.introspect Catalog.engine table view).result catalog).1

/-- A view that is not there yet is read back as nothing. -/
theorem Catalog.readBack_ofTables (table : FieldTable) (view : String) :
    (Catalog.ofTables ∅).readBack table view = .empty := by
  have hmissing : (Catalog.ofTables ∅).tables[view]? = none := Std.ExtTreeMap.getElem?_empty
  exact ViewState.introspect_of_missing hmissing

/-- Whatever the catalog holds, columns are read back in lower case. -/
theorem Catalog.lowered_of_readBack {catalog : Catalog} {table : FieldTable} {view column : String}
    (h : (catalog.readBack table view).hasColumn column = true) : Text.lowered column = column := by
  obtain ⟨columns, hstate | ⟨text, hstate⟩⟩ :=
    ViewState.introspect_cases Catalog.engine table view catalog
  · rw [Catalog.readBack, hstate, ViewState.hasColumn_reported] at h
    obtain ⟨info, -, rfl⟩ := h
    exact lowered_lowered info.name
  · rw [Catalog.readBack, hstate, ViewState.hasColumn_withKeys, ViewState.hasColumn_reported] at h
    obtain ⟨info, -, rfl⟩ := h
    exact lowered_lowered info.name

/-- And keys without a closing bracket. -/
theorem Catalog.notMem_of_readBack {catalog : Catalog} {table : FieldTable}
    {view column key : String} (h : key ∈ (catalog.readBack table view).keysOf column) :
    ']' ∉ key.toList := by
  obtain ⟨columns, hstate | ⟨text, hstate⟩⟩ :=
    ViewState.introspect_cases Catalog.engine table view catalog
  · rw [Catalog.readBack, hstate, ViewState.keysOf_reported] at h
    simp at h
  · rw [Catalog.readBack, hstate, ViewState.mem_keysOf_withKeys] at h
    rcases h with hnone | ⟨-, keys, hparse, hkey⟩
    · rw [ViewState.keysOf_reported] at hnone
      simp at hnone
    · exact MapKeys.notMem_of_parse? hparse hkey

namespace Compiler

variable {c : Compiler} {s t : ViewState} {d : ViewDefinition} {p : Deployed}

/-- The snapshot that a release starts from. -/
def snapshotFor (p : Deployed) (r : Release) : Snapshot :=
  if r.forget then .fresh else p.snapshot

/-- Compile a view and register it. -/
def release (c : Compiler) (p : Deployed) (r : Release) : Deployed :=
  match (c.compile Catalog.engine (snapshotFor p r) r.request).result p.catalog with
  | (.ok o, catalog) => ⟨c.register o catalog, o.snapshot⟩
  | (.error _, catalog) => ⟨catalog, p.snapshot⟩

/-- Some releases, one after the other. -/
def releases (c : Compiler) (p : Deployed) (rs : List Release) : Deployed :=
  rs.foldl c.release p

/-- What is read back of the view. -/
def readBack (c : Compiler) (catalog : Catalog) : ViewState :=
  catalog.readBack c.table c.viewName

/-- The state that a compilation starts from, over the catalog in memory. -/
theorem result_start (snapshot : Snapshot) (catalog : Catalog) :
    (c.start Catalog.engine snapshot).result catalog =
      (snapshot.state?.getD (c.readBack catalog), catalog) := by
  cases snapshot with
  | fresh =>
      have hcatalog : ((ViewState.introspect Catalog.engine c.table c.viewName).result
          catalog).2 = catalog := ViewState.result_introspect_snd
      exact Prod.ext rfl hcatalog
  | compiled s => rfl

/-- Without a snapshot a compilation succeeds if what it has to expose is rendered and the catalog
accepts statements. -/
theorem result_compile_fresh {request : Request} {catalog : Catalog}
    (haccepting : catalog.refusal = none)
    (hrender : (c.render ((c.readBack catalog).extend (c.requested request))).value = .ok d) :
    (c.compile Catalog.engine .fresh request).result catalog =
      (.ok ⟨some d, .compiled
          (c.recordTypes ((c.readBack catalog).extend (c.requested request)))⟩,
        catalog.afterStatement d.sql) := by
  have hexecute : (Catalog.engine.execute d.sql).result catalog =
      (.ok (), catalog.afterStatement d.sql) := by
    rw [Catalog.result_execute, haccepting]
  rw [result_compile_of_not_upToDate _ not_upToDate_fresh, result_start]
  exact (result_deploy_eq_ok_iff Catalog.engine).mpr ⟨d, hrender, hexecute, rfl⟩

/-- A compilation that fails has met a column that cannot be rendered, or the catalog refused the
definition with its own message.  Either way it leaves the catalog as it was. -/
theorem compile_error_cases {snapshot : Snapshot} {request : Request} {catalog later : Catalog}
    {e : CompileError}
    (h : (c.compile Catalog.engine snapshot request).result catalog = (.error e, later)) :
    later = catalog ∧ ((∃ unknown, e = .unknownField unknown) ∨
      ∃ message, catalog.refusal = some message ∧ e = .catalog (.rejected message)) := by
  by_cases hup : c.UpToDate snapshot request
  · rw [result_compile_of_upToDate _ hup] at h
    cases h
  · rw [result_compile_of_not_upToDate _ hup, result_start, result_deploy] at h
    dsimp only at h
    cases hrender : (c.render ((snapshot.state?.getD (c.readBack catalog)).extend
        (c.requested request))).value with
    | error unknown =>
        rw [hrender] at h
        cases h
        exact ⟨rfl, Or.inl ⟨unknown, rfl⟩⟩
    | ok d =>
        rw [hrender] at h
        simp only [Catalog.result_execute] at h
        cases hrefusal : catalog.refusal with
        | none =>
            rw [hrefusal] at h
            cases h
        | some message =>
            rw [hrefusal] at h
            cases h
            exact ⟨rfl, Or.inr ⟨message, rfl, rfl⟩⟩

theorem result_compile_error {snapshot : Snapshot} {request : Request} {catalog later : Catalog}
    {e : CompileError}
    (h : (c.compile Catalog.engine snapshot request).result catalog = (.error e, later)) :
    later = catalog :=
  (compile_error_cases h).1

/-! ### What releases keep -/

/-- What is needed for reading back: a property of states that compilations keep, and under which
the registered view is read back as the same state. -/
structure Recovers (c : Compiler) (Good : ViewState → Prop)
    (Same : ViewState → ViewState → Prop) : Prop where
  empty : Good .empty
  extend {s : ViewState} {request : Request} (good : Good s)
    (supported : ∀ f ∈ request.fields, f.Supported) : Good (s.extend (c.requested request))
  register {s : ViewState} {d : ViewDefinition} (good : Good s)
    (rendered : (c.render s).value = .ok d) (catalog : Catalog) :
    Good (c.recordTypes s) ∧
      Same (c.recordTypes s) (c.readBack (c.register ⟨some d, .compiled (c.recordTypes s)⟩ catalog))
  same {s t : ViewState} (good : Good s) (same : Same s t) : Good t

/-- Either nothing was released yet, or what is read back is what was compiled last. -/
def Faithful (c : Compiler) (Good : ViewState → Prop) (Same : ViewState → ViewState → Prop)
    (p : Deployed) : Prop :=
  (p.snapshot = .fresh ∧ p.catalog.tables[c.viewName]? = none) ∨
    ∃ s, p.snapshot = .compiled s ∧ Good s ∧ Same s (c.readBack p.catalog)

variable {Good : ViewState → Prop} {Same : ViewState → ViewState → Prop}

/-- A release starts from a good state, with the snapshot or without. -/
theorem Recovers.good_start (h : c.Recovers Good Same) (hp : c.Faithful Good Same p)
    (r : Release) : Good ((snapshotFor p r).state?.getD (c.readBack p.catalog)) := by
  have hread : Good (c.readBack p.catalog) := by
    rcases hp with ⟨-, hmissing⟩ | ⟨s, -, hgood, hsame⟩
    · rw [readBack, Catalog.readBack, ViewState.introspect_of_missing hmissing]
      exact h.empty
    · exact h.same hgood hsame
  rw [snapshotFor]
  split
  · exact hread
  · rcases hp with ⟨hfresh, -⟩ | ⟨s, hs, hgood, -⟩
    · rw [hfresh]
      exact hread
    · rw [hs]
      exact hgood

/-- One release keeps what is read back faithful. -/
theorem Recovers.release (h : c.Recovers Good Same) (hp : c.Faithful Good Same p) {r : Release}
    (hr : ∀ f ∈ r.request.fields, f.Supported) : c.Faithful Good Same (c.release p r) := by
  have hstart := h.good_start hp r
  rw [Compiler.release]
  rcases hresult : (c.compile Catalog.engine (snapshotFor p r) r.request).result p.catalog with
    ⟨e | o, later⟩
  · rw [result_compile_error hresult]
    exact hp
  · rcases (result_compile_eq_ok_iff Catalog.engine).mp hresult with
      ⟨⟨s, hs, -⟩, rfl, rfl⟩ | ⟨-, s, between, d, hs, hrender, -, rfl⟩
    · -- The view is up to date: the snapshot was not forgotten, and nothing is registered.
      have hkept : snapshotFor p r = p.snapshot := by
        rw [snapshotFor] at hs ⊢
        split
        · next hforget =>
            rw [if_pos hforget] at hs
            cases hs
        · rfl
      rw [hkept]
      exact hp
    · rw [result_start] at hs
      obtain rfl : _ = s := congrArg Prod.fst hs
      obtain ⟨hgood, hsame⟩ := h.register (h.extend hstart hr) hrender later
      exact Or.inr ⟨_, rfl, hgood, hsame⟩

/-- So do all releases of a run, by induction. -/
theorem Recovers.releases (h : c.Recovers Good Same) (rs : List Release)
    (hp : c.Faithful Good Same p) (hrs : ∀ r ∈ rs, ∀ f ∈ r.request.fields, f.Supported) :
    c.Faithful Good Same (c.releases p rs) := by
  induction rs generalizing p with
  | nil => exact hp
  | cons r rs ih =>
      have hnext := h.release hp (hrs r List.mem_cons_self)
      exact ih hnext fun later hlater => hrs later (List.mem_cons_of_mem r hlater)

/-! ### The two kinds of views -/

/-- Every key is a supported key of a map column that is exposed. -/
def KeyedByMaps (s : ViewState) : Prop :=
  ∀ column, ∀ key ∈ s.keysOf column,
    builtIn.isMapField column = true ∧ s.hasColumn column = true ∧ ']' ∉ key.toList

/-- Two states with the same columns, types and keys. -/
def Alike (s t : ViewState) : Prop :=
  t.columns = s.columns ∧ ∀ column, t.keysOf column = s.keysOf column

/-- Assembled views are read back with all their columns, types and keys. -/
theorem Assembles.recovers (h : c.Assembles) : c.Recovers KeyedByMaps Alike where
  empty := by
    intro column key hkey
    simp at hkey
  extend := by
    intro s request hgood hsupported column key hkey
    rw [ViewState.hasColumn_extend]
    rcases ViewState.mem_keysOf_extend.mp hkey with hold | hnew
    · obtain ⟨hmap, hcolumn, hbracket⟩ := hgood column key hold
      exact ⟨hmap, Or.inl hcolumn, hbracket⟩
    · obtain ⟨⟨⟨text, hparse⟩, htail⟩, -⟩ :=
        hsupported _ ((ofKey_mem_requested h.target).mp hnew)
      have hmap := Field.isMapField_of_parse hparse
      exact ⟨hmap, Or.inr ⟨_, hnew, rfl⟩, htail key rfl⟩
  register := by
    intro s d hgood hrender catalog
    have hkeys : ∀ column, ∀ key ∈ s.keysOf column, ']' ∉ key.toList :=
      fun column key hkey => (hgood column key hkey).2.2
    obtain ⟨hcolumns, hread⟩ := h.introspect_register hkeys hrender catalog
    refine ⟨fun column key hkey => ?_, hcolumns, fun column => ?_⟩
    · rw [keysOf_recordTypes] at hkey
      rw [hasColumn_recordTypes]
      exact hgood column key hkey
    · refine Std.ExtTreeSet.ext_mem fun key => ?_
      rw [keysOf_recordTypes]
      refine (hread column key).trans ⟨fun hkey => hkey.2.2, fun hkey => ?_⟩
      obtain ⟨hmap, hcolumn, -⟩ := hgood column key hkey
      exact ⟨hmap, hcolumn, hkey⟩
  same := by
    intro s t hgood ⟨hcolumns, hkeys⟩ column key hkey
    rw [hkeys] at hkey
    have hsame : t.hasColumn column = s.hasColumn column := by
      rw [ViewState.hasColumn, hcolumns]
      rfl
    rw [hsame]
    exact hgood column key hkey

/-- Every column has a supported name, and none has keys. -/
def Keyless (s : ViewState) : Prop :=
  (∀ column, s.hasColumn column = true → Text.lowered column = column ∧ ']' ∉ column.toList) ∧
    ∀ column, s.keysOf column = ∅

/-- A state with the same columns and no keys. -/
def SameColumns (s t : ViewState) : Prop :=
  ∀ column, t.hasColumn column = s.hasColumn column ∧ t.keysOf column = ∅

/-- What is requested of a view of generation one are columns, with names in lower case. -/
theorem Passes.of_mem_requested (h : c.Passes) (htarget : c.target = .one) {request : Request}
    (hsupported : ∀ f ∈ request.fields, f.Supported) {x : Exposure} (hx : x ∈ c.requested request) :
    x.key = none ∧ Text.lowered x.column = x.column ∧ ']' ∉ x.column.toList := by
  obtain ⟨f, hf, rfl⟩ := mem_requested.mp hx
  obtain ⟨⟨⟨text, hparse⟩, htail⟩, hhead⟩ := hsupported f hf
  have hone : c.crosswalk.target = .one := htarget
  rcases Field.of_parse hparse with ⟨name, rfl⟩ | ⟨container, own, rfl, -⟩
  · exact ⟨rfl, lowered_lowered name, hhead⟩
  · have htable : c.crosswalk.table = builtIn := h.table
    rw [Crosswalk.exposureOf, hone, htable, FieldTable.columnForKey_builtIn]
    have hflat := FieldTable.notMem_flatColumn hhead (htail own rfl)
    exact ⟨rfl, lowered_lowered _, notMem_lowered hflat⟩

/-- Views of generation one are read back with all their columns and no keys. -/
theorem Passes.recovers (h : c.Passes) (htarget : c.target = .one) :
    c.Recovers Keyless SameColumns where
  empty := by
    refine ⟨fun column hcolumn => ?_, fun column => ViewState.keysOf_empty⟩
    simp at hcolumn
  extend := by
    intro s request ⟨hnames, hkeys⟩ hsupported
    have hrequested {x : Exposure} (hx : x ∈ c.requested request) :=
      h.of_mem_requested htarget hsupported hx
    constructor
    · intro column hcolumn
      rcases ViewState.hasColumn_extend.mp hcolumn with hold | ⟨x, hx, rfl⟩
      · exact hnames column hold
      · exact (hrequested hx).2
    · intro column
      refine Std.ExtTreeSet.ext_mem fun key => ?_
      rw [ViewState.mem_keysOf_extend, hkeys]
      constructor
      · rintro (hold | hnew)
        · exact hold
        · cases (hrequested hnew).1
      · exact Or.inl
  register := by
    intro s d ⟨hnames, hkeys⟩ hrender catalog
    have hread := h.introspect_register hnames hrender catalog
    refine ⟨⟨fun column hcolumn => ?_, fun column => ?_⟩, fun column => ?_⟩
    · rw [hasColumn_recordTypes] at hcolumn
      exact hnames column hcolumn
    · rw [keysOf_recordTypes, hkeys]
    · rw [hasColumn_recordTypes]
      exact hread column
  same := by
    intro s t ⟨hnames, hkeys⟩ hsame
    refine ⟨fun column hcolumn => ?_, fun column => (hsame column).2⟩
    rw [(hsame column).1] at hcolumn
    exact hnames column hcolumn

/-- After every release what is read back of the view is what was compiled: out of generation one
into generation two its columns, their types and the keys of each of them, and in the layout of
generation one its columns, which have no keys. -/
theorem releases_readBack (c : Compiler) (htable : c.table = builtIn)
    (hname : Settings.isTableName c.source.name = true) (catalog : Catalog)
    (hnew : catalog.tables[c.viewName]? = none) (rs : List Release)
    (hsupported : ∀ r ∈ rs, ∀ f ∈ r.request.fields, f.Supported) (s : ViewState)
    (hs : (c.releases ⟨catalog, .fresh⟩ rs).snapshot = .compiled s) :
    let t := c.readBack (c.releases ⟨catalog, .fresh⟩ rs).catalog
    (c.source.generation = .one → c.target = .two →
      t.columns = s.columns ∧ ∀ column, t.keysOf column = s.keysOf column) ∧
    (c.target = .one →
      (∀ column, t.hasColumn column = s.hasColumn column) ∧ ∀ column, t.keysOf column = ∅) := by
  intro t
  constructor
  · intro hsource htarget
    have hassembles : c.Assembles := ⟨⟨htable, hsource, htarget⟩, hname⟩
    have hstart : c.Faithful KeyedByMaps Alike ⟨catalog, .fresh⟩ := Or.inl ⟨rfl, hnew⟩
    rcases hassembles.recovers.releases rs hstart hsupported with ⟨hfresh, -⟩ | ⟨u, hu, -, hsame⟩
    · rw [hs] at hfresh
      cases hfresh
    · obtain rfl := Snapshot.compiled.inj (hs.symm.trans hu)
      exact hsame
  · intro htarget
    have hpasses : c.Passes := ⟨htable, Or.inr htarget, hname⟩
    have hstart : c.Faithful Keyless SameColumns ⟨catalog, .fresh⟩ := Or.inl ⟨rfl, hnew⟩
    rcases (hpasses.recovers htarget).releases rs hstart hsupported with
      ⟨hfresh, -⟩ | ⟨u, hu, -, hsame⟩
    · rw [hs] at hfresh
      cases hfresh
    · obtain rfl := Snapshot.compiled.inj (hs.symm.trans hu)
      exact ⟨fun column => (hsame column).1, fun column => (hsame column).2⟩

theorem releases_readBack_at_quoted_key :
    let c : Compiler := ⟨builtIn, ⟨"billing.cur", .one, ∅⟩, .two⟩
    let one := Field.mapKey "resource_tags" "user_team"
    let two := Field.mapKey "resource_tags" "it's, MAP(ARRAY["
    let rs : List Release := [⟨true, ⟨.ofList [one, two]⟩⟩, ⟨false, ⟨.ofList [two]⟩⟩]
    let p := c.releases ⟨.ofTables ∅, .fresh⟩ rs
    Settings.isTableName c.source.name = true ∧ one.Supported ∧ two.Supported ∧
      ∃ s, p.snapshot = .compiled s ∧ (c.readBack p.catalog).columns = s.columns ∧
        "it's, MAP(ARRAY[" ∈ (c.readBack p.catalog).keysOf "resource_tags" := by
  intro c one two rs p
  have hname : Settings.isTableName c.source.name = true := by decide +kernel
  have hone : one.Supported :=
    ⟨⟨⟨"resource_tags['user_team']", by decide +kernel⟩, by decide +kernel⟩, by decide +kernel⟩
  have htwo : two.Supported :=
    ⟨⟨⟨"resource_tags['it''s, MAP(ARRAY[']", by decide +kernel⟩, by decide +kernel⟩,
      by decide +kernel⟩
  have hsupported : ∀ r ∈ rs, ∀ f ∈ r.request.fields, f.Supported := by
    intro r hr f hf
    simp only [rs, List.mem_cons, List.not_mem_nil, or_false] at hr
    rcases hr with rfl | rfl
    · rw [Std.ExtTreeSet.mem_ofList, List.contains_iff_mem] at hf
      simp only [List.mem_cons, List.not_mem_nil, or_false] at hf
      rcases hf with rfl | rfl
      · exact hone
      · exact htwo
    · rw [Std.ExtTreeSet.mem_ofList, List.contains_iff_mem, List.mem_singleton] at hf
      exact hf ▸ htwo
  have hcompiled : (p.snapshot.state?.any fun s =>
      (s.keysOf "resource_tags").contains "it's, MAP(ARRAY[") = true := by
    decide +kernel
  have hstate : ∃ s, p.snapshot = .compiled s ∧
      "it's, MAP(ARRAY[" ∈ s.keysOf "resource_tags" := by
    cases hsnapshot : p.snapshot with
    | fresh =>
        rw [hsnapshot] at hcompiled
        cases hcompiled
    | compiled s =>
        rw [hsnapshot] at hcompiled
        exact ⟨s, rfl, Std.ExtTreeSet.contains_iff_mem.mp hcompiled⟩
  obtain ⟨s, hs, hkey⟩ := hstate
  have hmissing : (Catalog.ofTables ∅).tables[c.viewName]? = none :=
    Std.ExtTreeMap.getElem?_empty
  obtain ⟨hcolumns, hkeys⟩ :=
    (releases_readBack c rfl hname (.ofTables ∅) hmissing rs hsupported s hs).1 rfl rfl
  refine ⟨hname, hone, htwo, s, hs, hcolumns, ?_⟩
  rw [hkeys]
  exact hkey

end Compiler
end CostView
