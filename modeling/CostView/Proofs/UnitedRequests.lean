import CostView.Proofs.RegisteredView

/-!
# One request instead of many

Compiling for one request after the other comes to the same as compiling once for all that they ask
for.  A step may be skipped because earlier ones exposed what it asks for, and the types that are
recorded after a step are those that the next one would find anyway, so only what has been asked for
up to now is left of a run.  And a column is rendered or not whatever else is exposed, hence a run
fails just if the single compilation does.

The engine has to execute what it is given.  One that refuses statements may refuse that of an early
step, which the single compilation never sends.
-/

namespace CostView

variable {σ : Type}

/-- While it is open an engine executes every statement, and nothing that it is asked closes it. -/
structure Engine.Accepts (engine : Engine σ) (isOpen : σ → Prop) : Prop where
  listColumns : ∀ view world, isOpen world → isOpen ((engine.listColumns view).result world).2
  definitionText : ∀ view world, isOpen world → isOpen ((engine.definitionText view).result world).2
  executes : ∀ sql world, isOpen world → ((engine.execute sql).result world).1 = .ok ()
  execute : ∀ sql world, isOpen world → isOpen ((engine.execute sql).result world).2

/-- The catalog in memory is open unless it was told to refuse. -/
theorem Catalog.accepts_engine : Catalog.engine.Accepts fun catalog => catalog.refusal = none where
  listColumns view catalog h := by
    cases htable : catalog.tables[view]? with
    | none => rwa [result_listColumns_of_none htable]
    | some table => rwa [result_listColumns_of_some htable]
  definitionText view catalog h := by rwa [result_definitionText_snd]
  executes sql catalog h := by rw [result_execute, h]
  execute sql catalog h := by rw [result_execute, h, refusal_afterStatement, h]

/-- All that some requests ask for. -/
def Request.union (requests : List Request) : Request :=
  ⟨.ofList (requests.flatMap Request.toList)⟩

theorem Request.mem_union {requests : List Request} {f : Field} :
    f ∈ (Request.union requests).fields ↔ ∃ r ∈ requests, f ∈ r.fields := by
  rw [Request.union, Std.ExtTreeSet.mem_ofList, List.contains_iff_mem, List.mem_flatMap]
  simp only [Request.toList, Std.ExtTreeSet.mem_toList]

theorem Request.union_congr {requests reordered : List Request}
    (h : ∀ r, r ∈ reordered ↔ r ∈ requests) : Request.union reordered = .union requests := by
  have hfields : (Request.union reordered).fields = (Request.union requests).fields :=
    Std.ExtTreeSet.ext_mem fun f => by simp only [mem_union, h]
  exact congrArg Request.mk hfields

/-- What some compilations did: the definitions that were executed, in order, and what is known
about the view in the end. -/
structure Series where
  definitions : List ViewDefinition
  snapshot : Snapshot

/-- What is left of a series: the last definition, and what is known in the end. -/
def Series.outcome (x : Series) : Outcome :=
  ⟨x.definitions.getLast?, x.snapshot⟩

/-- What a first compilation did is left only if no later one executed anything. -/
theorem Series.outcome_append (first : Option ViewDefinition) (x : Series) :
    Series.outcome ⟨first.toList ++ x.definitions, x.snapshot⟩ =
      ⟨x.outcome.definition.or first, x.snapshot⟩ := by
  rw [outcome, List.getLast?_append]
  cases first <;> rfl

namespace Compiler

variable {c : Compiler} {engine : Engine σ} {isOpen : σ → Prop} {live : ViewState}

/-- Compile for one request after the other, each time from what is known since the last time. -/
def compileEach (c : Compiler) (engine : Engine σ) :
    Snapshot → List Request → Action σ (Except CompileError Series)
  | snapshot, [] => return .ok ⟨[], snapshot⟩
  | snapshot, request :: rest => do
    match ← c.compile engine snapshot request with
    | .error e => return .error e
    | .ok o =>
      match ← c.compileEach engine o.snapshot rest with
      | .error e => return .error e
      | .ok x => return .ok ⟨o.definition.toList ++ x.definitions, x.snapshot⟩

/-- The state that is exposed by a compilation which finds `live` if it has to look. -/
def aim (c : Compiler) (live : ViewState) (snapshot : Snapshot) (request : Request) : ViewState :=
  (snapshot.state?.getD live).extend (c.requested request)

/-- What a compilation comes to as long as the engine is open. -/
inductive Attains (c : Compiler) (live : ViewState) (snapshot : Snapshot) (request : Request) :
    Outcome → Prop
  | known (h : c.UpToDate snapshot request) : Attains c live snapshot request ⟨none, snapshot⟩
  | deployed {d : ViewDefinition} (h : ¬ c.UpToDate snapshot request)
      (rendered : (c.render (c.aim live snapshot request)).value = .ok d) :
      Attains c live snapshot request
        ⟨some d, .compiled (c.recordTypes (c.aim live snapshot request))⟩

theorem Attains.unique {snapshot : Snapshot} {request : Request} {o p : Outcome}
    (ho : c.Attains live snapshot request o) (hp : c.Attains live snapshot request p) : o = p := by
  cases ho with
  | known h =>
      cases hp with
      | known => rfl
      | deployed hnot => exact absurd h hnot
  | deployed hnot hd =>
      cases hp with
      | known h => exact absurd h hnot
      | deployed _ hd' =>
          rw [hd] at hd'
          cases hd'
          rfl

/-- Reading the view leaves the engine open. -/
theorem isOpen_start (haccepts : engine.Accepts isOpen) {world : σ} (hopen : isOpen world)
    (snapshot : Snapshot) : isOpen ((c.start engine snapshot).result world).2 := by
  cases snapshot with
  | compiled s => exact hopen
  | fresh =>
      have hlisted := haccepts.listColumns c.viewName world hopen
      rw [start, ViewState.result_introspect]
      rcases hcolumns : (engine.listColumns c.viewName).result world with ⟨_ | columns, later⟩
      · rwa [hcolumns] at hlisted
      · rw [hcolumns] at hlisted
        have htext := haccepts.definitionText c.viewName later hlisted
        dsimp only
        split
        · exact hlisted
        · rcases hresult : (engine.definitionText c.viewName).result later with ⟨_ | text, last⟩
          · rwa [hresult] at htext
          · rwa [hresult] at htext

/-- So does a compilation. -/
theorem isOpen_compile (haccepts : engine.Accepts isOpen) {world : σ} (hopen : isOpen world)
    (snapshot : Snapshot) (request : Request) :
    isOpen ((c.compile engine snapshot request).result world).2 := by
  by_cases h : c.UpToDate snapshot request
  · rwa [result_compile_of_upToDate engine h]
  · have hbetween := isOpen_start (c := c) haccepts hopen snapshot
    rw [result_compile_of_not_upToDate engine h, result_deploy]
    rcases hstart : (c.start engine snapshot).result world with ⟨s, between⟩
    rw [hstart] at hbetween
    cases (c.render (s.extend (c.requested request))).value with
    | error e => exact hbetween
    | ok d =>
        have hlater := haccepts.execute d.sql between hbetween
        dsimp only
        rcases hresult : (engine.execute d.sql).result between with ⟨e | ⟨⟩, later⟩
        · rwa [hresult] at hlater
        · rwa [hresult] at hlater

/-- Over an open engine a compilation gives what it attains. -/
theorem attains_iff (haccepts : engine.Accepts isOpen) {world : σ} (hopen : isOpen world)
    {snapshot : Snapshot} {request : Request} {o : Outcome}
    (hlive : ((c.start engine snapshot).result world).1 = snapshot.state?.getD live) :
    c.Attains live snapshot request o ↔
      ∃ later, (c.compile engine snapshot request).result world = (.ok o, later) := by
  have hbetween := isOpen_start (c := c) haccepts hopen snapshot
  rcases hstart : (c.start engine snapshot).result world with ⟨s, between⟩
  rw [hstart] at hlive hbetween
  change s = _ at hlive
  constructor
  · intro h
    cases h with
    | known h => exact ⟨world, result_compile_of_upToDate engine h world⟩
    | @deployed d h rendered =>
        have hexecuted : (engine.execute d.sql).result between =
            (.ok (), ((engine.execute d.sql).result between).2) :=
          Prod.ext (haccepts.executes d.sql between hbetween) rfl
        rw [aim, ← hlive] at rendered ⊢
        exact ⟨_, (result_compile_eq_ok_iff engine).mpr
          (Or.inr ⟨h, s, between, d, hstart, rendered, hexecuted, rfl⟩)⟩
  · rintro ⟨later, hcompiled⟩
    rcases (result_compile_eq_ok_iff engine).mp hcompiled with
      ⟨h, rfl, -⟩ | ⟨h, _, _, d, hsame, rendered, -, rfl⟩
    · exact .known h
    · rw [hstart] at hsame
      obtain ⟨rfl, rfl⟩ := Prod.mk.inj hsame
      rw [hlive] at rendered ⊢
      exact .deployed h rendered

/-! ### Two requests -/

section

variable {snapshot : Snapshot} {first second both : Request}

theorem upToDate_both
    (hboth : ∀ x, x ∈ c.requested both ↔ x ∈ c.requested first ∨ x ∈ c.requested second) :
    c.UpToDate snapshot both ↔ c.UpToDate snapshot first ∧ c.UpToDate snapshot second := by
  constructor
  · rintro ⟨s, hs, hcontains⟩
    exact ⟨⟨s, hs, fun x hx => hcontains x ((hboth x).mpr (Or.inl hx))⟩,
      ⟨s, hs, fun x hx => hcontains x ((hboth x).mpr (Or.inr hx))⟩⟩
  · rintro ⟨⟨s, rfl, hfirst⟩, ⟨_, hs, hsecond⟩⟩
    cases hs
    exact ⟨s, rfl, fun x hx => ((hboth x).mp hx).elim (hfirst x) (hsecond x)⟩

theorem aim_both
    (hboth : ∀ x, x ∈ c.requested both ↔ x ∈ c.requested first ∨ x ∈ c.requested second) :
    c.aim live snapshot both = (c.aim live snapshot first).extend (c.requested second) := by
  rw [aim, aim, ← ViewState.extend_append]
  refine ViewState.extend_congr fun x => ?_
  rw [hboth, List.mem_append]

theorem aim_of_upToDate {s : ViewState} (h : c.UpToDate (.compiled s) first) :
    c.aim live (.compiled s) first = s := by
  obtain ⟨_, hs, hcontains⟩ := h
  cases hs
  exact ViewState.extend_of_contains hcontains

/-- Two compilations attain what one attains that is asked for both at once. -/
theorem Attains.andThen
    (hboth : ∀ x, x ∈ c.requested both ↔ x ∈ c.requested first ∨ x ∈ c.requested second)
    {o p : Outcome} (ho : c.Attains live snapshot first o)
    (hp : c.Attains live o.snapshot second p) :
    c.Attains live snapshot both ⟨p.definition.or o.definition, p.snapshot⟩ := by
  cases ho with
  | known h =>
      cases hp with
      | known h' => exact .known ((upToDate_both hboth).mpr ⟨h, h'⟩)
      | deployed hnot rendered =>
          obtain ⟨s, rfl, -⟩ := id h
          have haim : c.aim live (.compiled s) both = c.aim live (.compiled s) second := by
            rw [aim_both hboth, aim_of_upToDate h]
            rfl
          rw [← haim] at rendered ⊢
          exact .deployed (fun hyes => hnot ((upToDate_both hboth).mp hyes).2) rendered
  | deployed hnot rendered =>
      have hstale : ¬ c.UpToDate snapshot both := fun hyes => hnot ((upToDate_both hboth).mp hyes).1
      cases hp with
      | known h' =>
          -- The second request found all that it asks for, so the first aim is that of both.
          obtain ⟨_, hs, hcontains⟩ := h'
          cases hs
          have haim : c.aim live snapshot both = c.aim live snapshot first := by
            rw [aim_both hboth]
            refine ViewState.extend_of_contains fun x hx => ?_
            rw [← contains_recordTypes (c := c)]
            exact hcontains x hx
          rw [← haim] at rendered ⊢
          exact .deployed hstale rendered
      | deployed _ rendered' =>
          -- Types that the first deployment recorded are those that rendering finds anyway.
          change (c.render ((c.recordTypes _).extend _)).value = _ at rendered'
          change c.Attains live snapshot both
            ⟨_, .compiled (c.recordTypes ((c.recordTypes _).extend _))⟩
          rw [recordTypes_extend_recordTypes, ← aim_both hboth]
          rw [render_extend_recordTypes, ← aim_both hboth] at rendered'
          exact .deployed hstale rendered'

/-- If one attains something that is asked for both at once, so do two compilations. -/
theorem Attains.split
    (hboth : ∀ x, x ∈ c.requested both ↔ x ∈ c.requested first ∨ x ∈ c.requested second)
    {p : Outcome} (hp : c.Attains live snapshot both p) :
    ∃ o q, c.Attains live snapshot first o ∧ c.Attains live o.snapshot second q := by
  cases hp with
  | known h =>
      obtain ⟨hfirst, hsecond⟩ := (upToDate_both hboth).mp h
      exact ⟨_, _, .known hfirst, .known hsecond⟩
  | @deployed d hstale rendered =>
      rw [aim_both hboth] at rendered
      by_cases hfirst : c.UpToDate snapshot first
      · have hnot : ¬ c.UpToDate snapshot second :=
          fun hyes => hstale ((upToDate_both hboth).mpr ⟨hfirst, hyes⟩)
        obtain ⟨s, rfl, -⟩ := id hfirst
        rw [aim_of_upToDate hfirst] at rendered
        have hq : c.Attains live (.compiled s) second _ := .deployed hnot rendered
        exact ⟨_, _, .known hfirst, hq⟩
      · -- A column of the first aim is rendered, as it is one of both.
        obtain ⟨d', rendered'⟩ := exists_render_of_extend ⟨d, rendered⟩
        by_cases hsecond :
            c.UpToDate (.compiled (c.recordTypes (c.aim live snapshot first))) second
        · exact ⟨_, _, .deployed hfirst rendered', .known hsecond⟩
        · rw [← render_extend_recordTypes] at rendered
          have hq : c.Attains live (.compiled (c.recordTypes (c.aim live snapshot first))) second
              _ := .deployed hsecond rendered
          exact ⟨_, _, .deployed hfirst rendered', hq⟩

/-- So being asked for both at once is being asked for one after the other. -/
theorem attains_both_iff
    (hboth : ∀ x, x ∈ c.requested both ↔ x ∈ c.requested first ∨ x ∈ c.requested second)
    {o : Outcome} : c.Attains live snapshot both o ↔
      ∃ p q, c.Attains live snapshot first p ∧ c.Attains live p.snapshot second q ∧
        o = ⟨q.definition.or p.definition, q.snapshot⟩ := by
  constructor
  · intro ho
    obtain ⟨p, q, hp, hq⟩ := ho.split hboth
    exact ⟨p, q, hp, hq, ho.unique (hp.andThen hboth hq)⟩
  · rintro ⟨p, q, hp, hq, rfl⟩
    exact hp.andThen hboth hq

end

/-! ### A list of requests -/

/-- A series over a list is one compilation, and then a series over the rest. -/
theorem result_compileEach_cons_eq_ok_iff (engine : Engine σ) {snapshot : Snapshot}
    {request : Request} {rest : List Request} {world last : σ} {x : Series} :
    (c.compileEach engine snapshot (request :: rest)).result world = (.ok x, last) ↔
      ∃ o later y, (c.compile engine snapshot request).result world = (.ok o, later) ∧
        (c.compileEach engine o.snapshot rest).result later = (.ok y, last) ∧
          x = ⟨o.definition.toList ++ y.definitions, y.snapshot⟩ := by
  rw [compileEach, Action.result_bind]
  rcases (c.compile engine snapshot request).result world with ⟨e | o, later⟩
  · simp
  · dsimp only
    rw [Action.result_bind]
    rcases hrest : (c.compileEach engine o.snapshot rest).result later with ⟨e | y, final⟩
    · simp [hrest]
    · simp [hrest, eq_comm, and_comm]

theorem mem_requested_union {request : Request} {rest : List Request} {x : Exposure} :
    x ∈ c.requested (.union (request :: rest)) ↔
      x ∈ c.requested request ∨ x ∈ c.requested (.union rest) := by
  simp only [mem_requested, Request.mem_union, List.exists_mem_cons_iff, or_and_right, exists_or]

theorem Attains.exists_compiled {snapshot : Snapshot} {request : Request} {o : Outcome}
    (h : c.Attains live snapshot request o) : ∃ s, o.snapshot = .compiled s := by
  cases h with
  | known h =>
      obtain ⟨s, hs, -⟩ := h
      exact ⟨s, hs⟩
  | deployed => exact ⟨_, rfl⟩

/-- Over an open engine a series leaves what one compilation attains that is asked for everything
at once.  Only where nothing is known is there a difference between no compilation and one that is
asked for nothing. -/
theorem attains_union_iff (haccepts : engine.Accepts isOpen) {requests : List Request} {world : σ}
    (hopen : isOpen world) {snapshot : Snapshot} (hrequests : snapshot = .fresh → requests ≠ [])
    (hlive : ((c.start engine snapshot).result world).1 = snapshot.state?.getD live)
    {o : Outcome} :
    c.Attains live snapshot (.union requests) o ↔
      ∃ x last, (c.compileEach engine snapshot requests).result world = (.ok x, last) ∧
        x.outcome = o := by
  -- On the list, for every snapshot: after the first compilation the rest starts from a known
  -- state, and there the empty list agrees with a request for nothing.
  induction requests generalizing snapshot world o with
  | nil =>
      obtain ⟨s, rfl⟩ : ∃ s, snapshot = .compiled s := by
        cases snapshot with
        | fresh => exact absurd rfl (hrequests rfl)
        | compiled s => exact ⟨s, rfl⟩
      have hknown : c.Attains live (.compiled s) (.union []) ⟨none, .compiled s⟩ := by
        refine .known ⟨s, rfl, fun x hx => ?_⟩
        obtain ⟨f, hf, -⟩ := mem_requested.mp hx
        obtain ⟨r, hr, -⟩ := Request.mem_union.mp hf
        cases hr
      constructor
      · intro ho
        obtain rfl := hknown.unique ho
        exact ⟨_, _, rfl, rfl⟩
      · rintro ⟨x, last, hx, rfl⟩
        cases hx
        exact hknown
  | cons request rest ih =>
      have hrest {p : Outcome} {later : σ} (hp : c.Attains live snapshot request p)
          (hcompiled : (c.compile engine snapshot request).result world = (.ok p, later))
          {q : Outcome} : c.Attains live p.snapshot (.union rest) q ↔
            ∃ y last, (c.compileEach engine p.snapshot rest).result later = (.ok y, last) ∧
              y.outcome = q := by
        have hlater := isOpen_compile (c := c) haccepts hopen snapshot request
        rw [hcompiled] at hlater
        obtain ⟨s, hs⟩ := hp.exists_compiled
        rw [hs]
        exact ih hlater (fun hfresh => by cases hfresh) rfl
      rw [attains_both_iff fun _ => mem_requested_union]
      constructor
      · rintro ⟨p, q, hp, hq, rfl⟩
        obtain ⟨later, hcompiled⟩ := (attains_iff haccepts hopen hlive).mp hp
        obtain ⟨y, last, hy, rfl⟩ := (hrest hp hcompiled).mp hq
        exact ⟨_, last, (result_compileEach_cons_eq_ok_iff engine).mpr
          ⟨p, later, y, hcompiled, hy, rfl⟩, Series.outcome_append p.definition y⟩
      · rintro ⟨x, last, hx, rfl⟩
        obtain ⟨p, later, y, hcompiled, hy, rfl⟩ := (result_compileEach_cons_eq_ok_iff engine).mp hx
        have hp := (attains_iff haccepts hopen hlive).mpr ⟨later, hcompiled⟩
        have hq := (hrest hp hcompiled).mpr ⟨y, last, hy, rfl⟩
        exact ⟨p, y.outcome, hp, hq, Series.outcome_append p.definition y⟩

/-- Compiling for one request after the other succeeds just if compiling once for all that they ask
for does.  Then the same is known of the view in the end, and the last definition that was executed,
if one was, is that of the single compilation.  So it matters neither in which order the requests
come nor how often one of them does. -/
theorem compileEach_iff_compile_union (c : Compiler) (engine : Engine σ) (isOpen : σ → Prop)
    (haccepts : engine.Accepts isOpen) (world : σ) (hopen : isOpen world) (snapshot : Snapshot)
    (requests : List Request) (hrequests : requests ≠ []) :
    ((∃ x last, (c.compileEach engine snapshot requests).result world = (.ok x, last)) ↔
      ∃ o last, (c.compile engine snapshot (.union requests)).result world = (.ok o, last)) ∧
    (∀ x last o final,
      (c.compileEach engine snapshot requests).result world = (.ok x, last) →
      (c.compile engine snapshot (.union requests)).result world = (.ok o, final) →
        x.snapshot = o.snapshot ∧ x.definitions.getLast? = o.definition) ∧
    ∀ (reordered : List Request), (∀ r, r ∈ reordered ↔ r ∈ requests) →
      ∀ x last, (c.compileEach engine snapshot requests).result world = (.ok x, last) →
        ∃ y final, (c.compileEach engine snapshot reordered).result world = (.ok y, final) ∧
          y.snapshot = x.snapshot ∧ y.definitions.getLast? = x.definitions.getLast? := by
  obtain ⟨live, hlive⟩ : ∃ live, ((c.start engine snapshot).result world).1 =
      snapshot.state?.getD live := by
    cases snapshot with
    | fresh => exact ⟨_, rfl⟩
    | compiled s => exact ⟨s, rfl⟩
  have heach {o : Outcome} : c.Attains live snapshot (.union requests) o ↔
      ∃ x last, (c.compileEach engine snapshot requests).result world = (.ok x, last) ∧
        x.outcome = o :=
    attains_union_iff haccepts hopen (fun _ => hrequests) hlive
  have honce {o : Outcome} : c.Attains live snapshot (.union requests) o ↔
      ∃ last, (c.compile engine snapshot (.union requests)).result world = (.ok o, last) :=
    attains_iff haccepts hopen hlive
  refine ⟨⟨?_, ?_⟩, ?_, ?_⟩
  · rintro ⟨x, last, hx⟩
    exact ⟨_, honce.mp (heach.mpr ⟨x, last, hx, rfl⟩)⟩
  · rintro ⟨o, last, ho⟩
    obtain ⟨x, final, hx, -⟩ := heach.mp (honce.mpr ⟨last, ho⟩)
    exact ⟨x, final, hx⟩
  · intro x last o final hx ho
    have hsame : x.outcome = o :=
      (heach.mpr ⟨x, last, hx, rfl⟩).unique (honce.mpr ⟨final, ho⟩)
    subst hsame
    exact ⟨rfl, rfl⟩
  · -- A union does not depend on the order, and each list leaves what its union attains.
    intro reordered hreordered x last hx
    have hne : reordered ≠ [] := by
      rintro rfl
      obtain ⟨r, hr⟩ := List.exists_mem_of_ne_nil requests hrequests
      cases (hreordered r).mpr hr
    have hx' := heach.mpr ⟨x, last, hx, rfl⟩
    rw [← Request.union_congr hreordered] at hx'
    obtain ⟨y, final, hy, hsame⟩ :=
      (attains_union_iff haccepts hopen (fun _ => hne) hlive).mp hx'
    exact ⟨y, final, hy, congrArg Outcome.snapshot hsame, congrArg Outcome.definition hsame⟩

theorem compileEach_iff_compile_union_at_keys :
    let c : Compiler := ⟨⟨"1", [⟨"product", .varchar⟩], []⟩, ⟨"cur", .one, ∅⟩, .two⟩
    let vcpu : Request := ⟨.ofList [Field.mapKey "product" "vcpu"]⟩
    let region : Request := ⟨.ofList [Field.mapKey "product" "region"]⟩
    let catalog := Catalog.ofTables ∅
    catalog.refusal = none ∧ ∃ x last o final y other,
      (c.compileEach Catalog.engine .fresh [vcpu, region]).result catalog = (.ok x, last) ∧
        (c.compile Catalog.engine .fresh (.union [vcpu, region])).result catalog = (.ok o, final) ∧
        x.snapshot = o.snapshot ∧ x.definitions.getLast? = o.definition ∧
        (c.compileEach Catalog.engine .fresh [region, vcpu, region]).result catalog =
          (.ok y, other) ∧
        y.snapshot = x.snapshot ∧ y.definitions.getLast? = x.definitions.getLast? := by
  intro c vcpu region catalog
  obtain ⟨hboth, hsame, hagain⟩ := compileEach_iff_compile_union c Catalog.engine _
    Catalog.accepts_engine catalog rfl .fresh [vcpu, region] (List.cons_ne_nil _ _)
  have hok : ((c.compile Catalog.engine .fresh (.union [vcpu, region])).result catalog).1.isOk =
      true := by
    decide +kernel
  rcases honce : (c.compile Catalog.engine .fresh (.union [vcpu, region])).result catalog with
    ⟨e | o, final⟩
  · rw [honce] at hok
    cases hok
  · obtain ⟨x, last, hx⟩ := hboth.mpr ⟨o, final, honce⟩
    obtain ⟨hsnapshot, hdefinition⟩ := hsame x last o final hx honce
    obtain ⟨y, other, hy, hrest⟩ := hagain [region, vcpu, region] (by simp) x last hx
    exact ⟨rfl, x, last, o, final, y, other, hx, rfl, hsnapshot, hdefinition, hy, hrest⟩

end Compiler
end CostView
