import CostView.Proofs.Compilation

/-!
# Runs of compilations only add

A run threads the snapshot that each successful call returns into the next one, over an engine
whose answers are arbitrary and may be changed by others between the calls.  A call that fails
returns no snapshot, so the next one is given the same.  Each successful call exposes just what the
state that it started from exposed and what is requested; from then on a call that requests nothing
new is answered without asking the engine.

Only well-keyed states are considered.  Introspection yields no others, and no call leads out of
them.
-/

namespace CostView

variable {σ : Type}

/-- A turn of a run: what others did to the engine since the last call, and what is requested. -/
structure Turn (σ : Type) where
  change : σ → σ
  request : Request

/-- The engine as the call finds it.  What others do is no call. -/
def Turn.prepare (t : Turn σ) (world : Traced σ) : Traced σ :=
  ⟨t.change world.state, world.calls⟩

/-- A point of a run: the snapshot that the next call is given, and the engine. -/
structure Point (σ : Type) where
  snapshot : Snapshot
  world : Traced σ

/-- A snapshot without a state, or with a well-keyed one. -/
def Snapshot.WellKeyed (snapshot : Snapshot) : Prop :=
  ∀ s, snapshot = .compiled s → s.WellKeyed

/-- Everything that is known to be exposed by one snapshot is known to be exposed by another. -/
def Snapshot.Within (earlier later : Snapshot) : Prop :=
  ∀ s, earlier = .compiled s →
    ∃ t, later = .compiled t ∧ ∀ x, s.contains x = true → t.contains x = true

theorem Snapshot.Within.refl (snapshot : Snapshot) : snapshot.Within snapshot :=
  fun s hs => ⟨s, hs, fun _ hx => hx⟩

theorem Snapshot.Within.trans {first second third : Snapshot} (h₁ : first.Within second)
    (h₂ : second.Within third) : first.Within third := by
  intro s hs
  obtain ⟨t, ht, hst⟩ := h₁ s hs
  obtain ⟨u, hu, htu⟩ := h₂ t ht
  exact ⟨u, hu, fun x hx => htu x (hst x hx)⟩

namespace Compiler

variable {c : Compiler} {engine : Engine σ} {p : Point σ} {turn : Turn σ}

/-- The call of a turn: what it gives and the engine that it leaves. -/
def call (c : Compiler) (engine : Engine σ) (p : Point σ) (turn : Turn σ) :
    Except CompileError Outcome × Traced σ :=
  (c.compile engine.traced p.snapshot turn.request).result (turn.prepare p.world)

/-- The state that the call of a turn starts from. -/
def startOfCall (c : Compiler) (engine : Engine σ) (p : Point σ) (turn : Turn σ) : ViewState :=
  ((c.start engine.traced p.snapshot).result (turn.prepare p.world)).1

/-- The point after a turn. -/
def next (c : Compiler) (engine : Engine σ) (p : Point σ) (turn : Turn σ) : Point σ :=
  match c.call engine p turn with
  | (.ok o, world) => ⟨o.snapshot, world⟩
  | (.error _, world) => ⟨p.snapshot, world⟩

/-- The point after some turns. -/
def run (c : Compiler) (engine : Engine σ) (p : Point σ) (turns : List (Turn σ)) : Point σ :=
  turns.foldl (c.next engine) p

theorem wellKeyed_start {snapshot : Snapshot} (h : snapshot.WellKeyed) (world : σ) :
    ((c.start engine snapshot).result world).1.WellKeyed := by
  cases snapshot with
  | fresh => exact ViewState.wellKeyed_introspect engine c.table c.viewName world
  | compiled s => exact h s rfl

/-- What a state exposes once a request was added to it and the types were recorded. -/
theorem contains_extend_requested {s : ViewState} (h : s.WellKeyed) {request : Request}
    {x : Exposure} :
    (s.extend (c.requested request)).contains x = true ↔
      s.contains x = true ∨ ∃ f ∈ request.fields,
        x = c.crosswalk.exposureOf f ∨ x = .ofColumn (c.crosswalk.exposureOf f).column := by
  rw [h.contains_extend]
  constructor
  · rintro (hold | ⟨y, hy, hx⟩)
    · exact Or.inl hold
    · obtain ⟨f, hf, rfl⟩ := mem_requested.mp hy
      exact Or.inr ⟨f, hf, hx⟩
  · rintro (hold | ⟨f, hf, hx⟩)
    · exact Or.inl hold
    · exact Or.inr ⟨_, mem_requested.mpr ⟨f, hf, rfl⟩, hx⟩

/-- One call: the state that it returns is well keyed, exposes what it has to and forgets no
type. -/
theorem call_ok (h : p.snapshot.WellKeyed) {o : Outcome} {world : Traced σ}
    (hcall : c.call engine p turn = (.ok o, world)) :
    ∃ s, o.snapshot = .compiled s ∧ s.WellKeyed ∧
      (∀ x, s.contains x = true ↔
        (c.startOfCall engine p turn).contains x = true ∨ ∃ f ∈ turn.request.fields,
          x = c.crosswalk.exposureOf f ∨ x = .ofColumn (c.crosswalk.exposureOf f).column) ∧
      ∀ column, (c.startOfCall engine p turn).columnType? column ≠ none →
        s.columnType? column ≠ none := by
  have hstart : (c.startOfCall engine p turn).WellKeyed := wellKeyed_start h _
  rw [call, result_compile_eq_ok_iff] at hcall
  rcases hcall with ⟨⟨s, hs, hcontains⟩, rfl, -⟩ | ⟨-, s, between, d, hs, -, -, rfl⟩
  · have hsame : c.startOfCall engine p turn = s := by
      rw [startOfCall, hs]
      rfl
    rw [hsame] at hstart ⊢
    refine ⟨s, hs, hstart, fun x => ⟨Or.inl, ?_⟩, fun _ htype => htype⟩
    -- Nothing is added: an exposure that is contained has its bare column contained as well.
    rintro (hold | ⟨f, hf, rfl | rfl⟩)
    · exact hold
    · exact hcontains _ (mem_requested.mpr ⟨f, hf, rfl⟩)
    · have hx := hcontains _ (mem_requested.mpr ⟨f, hf, rfl⟩)
      rw [ViewState.contains_iff] at hx ⊢
      exact ⟨hx.1, by simp [Exposure.ofColumn]⟩
  · have hsame : c.startOfCall engine p turn = s := congrArg Prod.fst hs
    rw [hsame] at hstart ⊢
    refine ⟨_, rfl, ?_, fun x => ?_, fun column htype => ?_⟩
    · intro column key hkey
      rw [keysOf_recordTypes] at hkey
      rw [hasColumn_recordTypes]
      exact hstart.extend column key hkey
    · rw [contains_recordTypes, contains_extend_requested hstart]
    · have hext : (s.extend (c.requested turn.request)).columnType? column ≠ none := by
        rwa [ViewState.columnType?_extend]
      rw [columnType?_recordTypes, if_pos (ViewState.hasColumn_of_columnType?_ne_none hext)]
      exact targetType?_ne_none hext

theorem call_ok_within (h : p.snapshot.WellKeyed) {o : Outcome} {world : Traced σ}
    (hcall : c.call engine p turn = (.ok o, world)) : p.snapshot.Within o.snapshot := by
  intro s hs
  obtain ⟨t, ht, -, hcontains, -⟩ := call_ok h hcall
  refine ⟨t, ht, fun x hx => (hcontains x).mpr (Or.inl ?_)⟩
  rw [startOfCall, hs]
  exact hx

/-- A turn keeps snapshots well keyed and forgets nothing. -/
theorem next_wellKeyed_within (h : p.snapshot.WellKeyed) :
    (c.next engine p turn).snapshot.WellKeyed ∧
      p.snapshot.Within (c.next engine p turn).snapshot := by
  rw [next]
  rcases hcall : c.call engine p turn with ⟨e | o, world⟩
  · exact ⟨h, .refl _⟩
  · obtain ⟨s, hs, hkeyed, -, -⟩ := call_ok h hcall
    refine ⟨fun t ht => ?_, call_ok_within h hcall⟩
    change o.snapshot = .compiled t at ht
    rw [hs] at ht
    cases ht
    exact hkeyed

/-- So does a run, by induction on its turns. -/
theorem run_wellKeyed_within (h : p.snapshot.WellKeyed) (turns : List (Turn σ)) :
    (c.run engine p turns).snapshot.WellKeyed ∧
      p.snapshot.Within (c.run engine p turns).snapshot := by
  induction turns generalizing p with
  | nil => exact ⟨h, .refl _⟩
  | cons turn turns ih =>
      have hstep : (c.next engine p turn).snapshot.WellKeyed ∧
          p.snapshot.Within (c.next engine p turn).snapshot := next_wellKeyed_within h
      obtain ⟨hnext, hwithin⟩ := hstep
      obtain ⟨hlast, hrest⟩ := ih hnext
      exact ⟨hlast, hwithin.trans hrest⟩

/-- Every successful call of a run exposes just what the state that it started from exposed, what
is requested, and the bare columns of that, and it forgets no type.  From then on a call whose
requested fields are all exposed already returns the snapshot that it was given and leaves the
engine, its calls included, as it found it. -/
theorem run_additive (c : Compiler) (engine : Engine σ) (start : Snapshot)
    (hstart : start.WellKeyed) (world : Traced σ) (turns : List (Turn σ)) (turn : Turn σ)
    (o : Outcome) (after : Traced σ)
    (hcall : c.call engine (c.run engine ⟨start, world⟩ turns) turn = (.ok o, after)) :
    ∃ s, o.snapshot = .compiled s ∧
      (∀ x, s.contains x = true ↔
        (c.startOfCall engine (c.run engine ⟨start, world⟩ turns) turn).contains x = true ∨
          ∃ f ∈ turn.request.fields,
            x = c.crosswalk.exposureOf f ∨ x = .ofColumn (c.crosswalk.exposureOf f).column) ∧
      (∀ column,
        (c.startOfCall engine (c.run engine ⟨start, world⟩ turns) turn).columnType? column ≠ none →
          s.columnType? column ≠ none) ∧
      ∀ (later : List (Turn σ)) (last : Turn σ),
        (∀ f ∈ last.request.fields, s.contains (c.crosswalk.exposureOf f) = true) →
          let q := c.run engine ⟨o.snapshot, after⟩ later
          c.call engine q last = (.ok ⟨none, q.snapshot⟩, last.prepare q.world) := by
  have hkeyed : (c.run engine ⟨start, world⟩ turns).snapshot.WellKeyed :=
    (run_wellKeyed_within hstart turns).1
  obtain ⟨s, hs, hwell, hcontains, htypes⟩ := call_ok hkeyed hcall
  refine ⟨s, hs, hcontains, htypes, fun later last hlast => ?_⟩
  have hsnapshot : Snapshot.WellKeyed o.snapshot := by
    intro t ht
    rw [hs] at ht
    cases ht
    exact hwell
  have hwithin : o.snapshot.Within (c.run engine ⟨o.snapshot, after⟩ later).snapshot :=
    (run_wellKeyed_within (p := ⟨o.snapshot, after⟩) hsnapshot later).2
  obtain ⟨t, ht, hgrown⟩ := hwithin s hs
  refine result_compile_of_upToDate engine.traced ⟨t, ht, fun x hx => ?_⟩ _
  obtain ⟨f, hf, rfl⟩ := mem_requested.mp hx
  exact hgrown _ (hlast f hf)

theorem run_additive_at_assembled_map :
    let c : Compiler := ⟨⟨"1", [⟨"product", .varchar⟩], []⟩, ⟨"cur", .one, ∅⟩, .two⟩
    let start : Snapshot := .compiled (ViewState.empty.extend [.ofKey "product" "region"])
    let turn : Turn Catalog := ⟨id, ⟨.ofList [Field.mapKey "product" "vcpu"]⟩⟩
    let world : Traced Catalog := ⟨.ofTables ∅, []⟩
    start.WellKeyed ∧ ∃ o after, c.call Catalog.engine ⟨start, world⟩ turn = (.ok o, after) ∧
      ∃ s, o.snapshot = .compiled s ∧
        s.contains (.ofKey "product" "region") = true ∧
        s.contains (.ofKey "product" "vcpu") = true ∧
        c.call Catalog.engine ⟨o.snapshot, after⟩ turn = (.ok ⟨none, o.snapshot⟩, after) := by
  intro c start turn world
  have hstart : start.WellKeyed := by
    intro s hs
    obtain rfl := Snapshot.compiled.inj hs
    exact ViewState.WellKeyed.extend fun column key hkey => by simp at hkey
  have hok : (c.call Catalog.engine ⟨start, world⟩ turn).1.isOk = true := by decide +kernel
  rcases hcall : c.call Catalog.engine ⟨start, world⟩ turn with ⟨e | o, after⟩
  · rw [hcall] at hok
    cases hok
  · obtain ⟨s, hs, hcontains, -, hlast⟩ :=
      run_additive c Catalog.engine start hstart world [] turn o after hcall
    have hregion : s.contains (.ofKey "product" "region") = true :=
      (hcontains _).mpr (Or.inl (by decide +kernel))
    have hvcpu : s.contains (.ofKey "product" "vcpu") = true :=
      (hcontains _).mpr (Or.inr ⟨.mapKey "product" "vcpu", by decide +kernel, Or.inl rfl⟩)
    refine ⟨hstart, o, after, rfl, s, hs, hregion, hvcpu, ?_⟩
    refine hlast [] turn fun f hf => ?_
    obtain rfl : Field.mapKey "product" "vcpu" = f := by
      simpa [turn, Std.ExtTreeSet.mem_ofList] using hf
    exact hvcpu

end Compiler
end CostView
