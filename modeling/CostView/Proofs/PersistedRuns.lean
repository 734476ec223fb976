import CostView.Proofs.AdditiveRuns
import CostView.Proofs.SnapshotText

/-!
# Runs whose snapshots are written down

A run may keep the snapshot in memory or write it down after each call and read it back before the
next.  The types of the state are not the same afterwards, so the two runs are compared up to the
types that a compiler does not tell apart: a state is looked at through the types that the columns
of the view get, and of those only the NULL matters.

Types that the table declares come first, whatever is recorded.  Every other type was once read from
a text, that of the source table or of the live view, and so it is alike to the one that it is read
back as.  This is what each call preserves.
-/

namespace CostView

variable {σ : Type}

/-- What a caller sees of a compilation: the statement that was executed and what is exposed. -/
def Outcome.shown (o : Outcome) : Option String × Option (Std.ExtTreeSet Exposure) :=
  (o.sql?, o.snapshot.state?.map ViewState.exposures)

namespace Compiler

variable {c : Compiler} {s t u : ViewState}

/-! ### States that a compiler does not tell apart -/

/-- The columns and keys are equal, and the types that the columns of the view get are alike. -/
structure SameView (c : Compiler) (s t : ViewState) : Prop where
  columns : ∀ n, s.hasColumn n = t.hasColumn n
  keyed : ∀ n, s.isKeyed n = t.isKeyed n
  keys : ∀ n, s.keysOf n = t.keysOf n
  types : ∀ n, Option.Rel SqlType.Alike (c.targetType? s n) (c.targetType? t n)

theorem alike_of_eq {a b : Option SqlType} (h : a = b) : Option.Rel SqlType.Alike a b := by
  subst h
  cases a with
  | none => exact .none
  | some type => exact .some (.refl type)

theorem alike_trans {a b d : Option SqlType} (hab : Option.Rel SqlType.Alike a b)
    (hbd : Option.Rel SqlType.Alike b d) : Option.Rel SqlType.Alike a d := by
  cases hab with
  | none => exact hbd
  | some hfirst =>
      cases hbd with
      | some hsecond => exact .some (hfirst.trans hsecond)

theorem SameView.refl (s : ViewState) : c.SameView s s where
  columns _ := rfl
  keyed _ := rfl
  keys _ := rfl
  types _ := alike_of_eq rfl

theorem SameView.trans (hst : c.SameView s t) (htu : c.SameView t u) : c.SameView s u where
  columns n := (hst.columns n).trans (htu.columns n)
  keyed n := (hst.keyed n).trans (htu.keyed n)
  keys n := (hst.keys n).trans (htu.keys n)
  types n := alike_trans (hst.types n) (htu.types n)

theorem SameView.extend (h : c.SameView s t) (xs : List Exposure) :
    c.SameView (s.extend xs) (t.extend xs) where
  columns n := by
    rw [Bool.eq_iff_iff, ViewState.hasColumn_extend, ViewState.hasColumn_extend, h.columns]
  keyed n := by
    rw [Bool.eq_iff_iff, ViewState.isKeyed_extend, ViewState.isKeyed_extend, h.keyed]
  keys n := by
    refine Std.ExtTreeSet.ext_mem fun key => ?_
    rw [ViewState.mem_keysOf_extend, ViewState.mem_keysOf_extend, h.keys]
  types n := by
    rw [targetType?_extend, targetType?_extend]
    exact h.types n

theorem SameView.recordTypes (h : c.SameView s t) : c.SameView (c.recordTypes s) (c.recordTypes t) where
  columns n := by rw [hasColumn_recordTypes, hasColumn_recordTypes, h.columns]
  keyed n := by rw [isKeyed_recordTypes, isKeyed_recordTypes, h.keyed]
  keys n := by rw [keysOf_recordTypes, keysOf_recordTypes, h.keys]
  types n := by
    rw [targetType?_recordTypes, targetType?_recordTypes]
    exact h.types n

theorem SameView.contains_eq (h : c.SameView s t) (x : Exposure) : s.contains x = t.contains x := by
  rw [Bool.eq_iff_iff, ViewState.contains_iff, ViewState.contains_iff, h.columns, h.keys]

/-- The same is exposed. -/
theorem SameView.exposures_eq (h : c.SameView s t) : s.exposures = t.exposures := by
  have hmapKeys : s.mapKeys = t.mapKeys := by
    refine Std.ExtTreeMap.ext_getElem? fun n => ?_
    rw [ViewState.getElem?_mapKeys, ViewState.getElem?_mapKeys, h.keyed, h.keys]
  rw [ViewState.exposures, ViewState.exposures, ViewState.columnNames_congr h.columns, hmapKeys]

/-! ### Rendering them -/

/-- Where something is missing, alike types give the same NULL or the same error. -/
theorem value_synthesizeNull_congr {a b : Option SqlType} (h : Option.Rel SqlType.Alike a b)
    (target : Generation) (field requirement : String) :
    (synthesizeNull target field requirement a).value =
      (synthesizeNull target field requirement b).value := by
  cases h with
  | none => rfl
  | some halike =>
      rcases halike with rfl | ⟨ha, hb⟩
      · rfl
      · simp only [synthesizeNull, SqlType.nullLiteral?_of_isMap ha,
          SqlType.nullLiteral?_of_isMap hb]

theorem SameView.value_renderColumn_eq (h : c.SameView s t) (column : String) :
    (c.renderColumn s column).value = (c.renderColumn t column).value := by
  -- The type of a column is looked at only where something that it needs is missing.
  have hvalue (resolution : Resolution) :
      (synthesize c.table c.target c.source.hasRequirement column (c.targetType? s column)
          resolution (s.keysOf column)).value =
        (synthesize c.table c.target c.source.hasRequirement column (c.targetType? t column)
          resolution (t.keysOf column)).value := by
    rw [h.keys]
    cases resolution with
    | assembly container => rfl
    | derived e requirements =>
        rw [synthesize, synthesize]
        cases requirements.find? fun r => !c.source.hasRequirement r with
        | none => rfl
        | some requirement => exact value_synthesizeNull_congr (h.types column) _ _ _
  rw [renderColumn, renderColumn, Noted.value_bind, Noted.value_bind]
  cases (c.crosswalk.resolve column).value with
  | error e => rfl
  | ok resolution =>
      simp only [Noted.value_bind, hvalue]

/-- They are rendered as the same definition, or fail with the same error. -/
theorem SameView.value_render_eq (h : c.SameView s t) : (c.render s).value = (c.render t).value := by
  have hcolumns (names : List String) :
      (c.renderColumns s names).value = (c.renderColumns t names).value := by
    induction names with
    | nil => rfl
    | cons n names ih =>
        rw [renderColumns, renderColumns, Noted.value_bind, Noted.value_bind,
          h.value_renderColumn_eq]
        cases (c.renderColumn t n).value with
        | error e => rfl
        | ok item => simp only [Noted.value_bind, ih]
  rw [render, render, Noted.value_bind, Noted.value_bind, ViewState.columnNames_congr h.columns,
    hcolumns]

/-! ### Types that were read from a text -/

end Compiler

namespace ViewState

variable {s : ViewState} {column : String} {type : SqlType}

/-- The type of a reported column was read from what the engine reports. -/
theorem stable_columnType?_reported {columns : List ColumnInfo}
    (h : (reported columns).columnType? column = some type) : type.Stable := by
  have hfold (columns : List ColumnInfo) (s : ViewState)
      (hs : ∀ type, s.columnType? column = some type → type.Stable) :
      ∀ type, (columns.foldl insertReported s).columnType? column = some type → type.Stable := by
    induction columns generalizing s with
    | nil => exact hs
    | cons c columns ih =>
        -- A column of no known type leaves the slot as it was; every other one is a parsed type.
        refine ih (s.insertReported c) fun type htype => ?_
        rw [insertReported, columnType?_insertColumn] at htype
        split at htype
        · next hname =>
            subst hname
            split at htype
            · exact hs type htype
            · obtain rfl : c.type = type := by simpa using htype
              exact SqlType.stable_parse c.typeText
        · exact hs type htype
  refine hfold columns empty (fun type htype => ?_) type h
  simp at htype

theorem stable_columnType?_introspect (engine : Engine σ) (table : FieldTable) (view : String)
    (world : σ) (h : ((introspect engine table view).result world).1.columnType? column =
      some type) : type.Stable := by
  obtain ⟨columns, hstate | ⟨text, hstate⟩⟩ := introspect_cases engine table view world
  · rw [hstate] at h
    exact stable_columnType?_reported h
  · rw [hstate, columnType?, columns_withKeys] at h
    exact stable_columnType?_reported h

@[simp] theorem hasColumn_reparsed : s.reparsed.hasColumn column = s.hasColumn column := by
  simp [reparsed, hasColumn]

theorem columnType?_reparsed :
    s.reparsed.columnType? column =
      (s.columnType? column).map fun t => SqlType.parse t.text := by
  rw [columnType?, columnType?, reparsed, Std.ExtTreeMap.getElem?_map]
  cases s.columns[column]? <;> rfl

end ViewState

/-- The type of a source column was read from what the engine reports. -/
theorem SourceTable.stable_columnType?_ofColumns {name column : String} {generation : Generation}
    {columns : List ColumnInfo} {type : SqlType}
    (h : (ofColumns name generation columns).columnType? column = some type) : type.Stable := by
  obtain ⟨e, he, rfl⟩ := exists_mem_of_getElem?_ofList h
  obtain ⟨info, -, rfl⟩ := List.mem_map.mp he
  exact SqlType.stable_parse info.typeText

namespace Compiler

variable {c : Compiler} {s t : ViewState}

/-- What the source reports was read from texts. -/
def SourceStable (c : Compiler) : Prop :=
  ∀ column type, c.source.columnType? column = some type → type.Stable

/-- Every recorded type that no declared one replaces was read from a text. -/
def StateStable (c : Compiler) (s : ViewState) : Prop :=
  ∀ column type, c.table.declaredType? c.target column = none →
    s.columnType? column = some type → type.Stable

theorem StateStable.extend (h : c.StateStable s) (xs : List Exposure) :
    c.StateStable (s.extend xs) := by
  intro column type hdeclared htype
  rw [ViewState.columnType?_extend] at htype
  exact h column type hdeclared htype

theorem StateStable.recordTypes (hsource : c.SourceStable) (h : c.StateStable s) :
    c.StateStable (c.recordTypes s) := by
  intro column type hdeclared htype
  rw [columnType?_recordTypes] at htype
  split at htype
  · rw [targetType?, hdeclared] at htype
    -- Nothing is declared, so the type is the recorded one or else that of the source.
    cases hknown : s.columnType? column with
    | some known =>
        rw [hknown] at htype
        cases htype
        exact h column type hdeclared hknown
    | none =>
        rw [hknown] at htype
        change (if _ then _ else none) = some type at htype
        split at htype
        · exact hsource column type htype
        · cases htype
  · cases htype

theorem stateStable_reparsed (s : ViewState) : c.StateStable s.reparsed := by
  intro column type _ htype
  rw [ViewState.columnType?_reparsed, Option.map_eq_some_iff] at htype
  obtain ⟨own, -, rfl⟩ := htype
  exact SqlType.stable_parse own.text

/-- A state whose types were read from texts is not told apart from what is read back of it. -/
theorem StateStable.sameView_reparsed (h : c.StateStable s) : c.SameView s s.reparsed where
  columns n := ViewState.hasColumn_reparsed.symm
  keyed _ := rfl
  keys _ := rfl
  types n := by
    rw [targetType?, targetType?, ViewState.columnType?_reparsed]
    cases hdeclared : c.table.declaredType? c.target n with
    | some type => exact .some (.refl type)
    | none =>
        cases htype : s.columnType? n with
        | some type => exact .some (h n type hdeclared htype).symm
        | none => exact alike_of_eq rfl

/-! ### Compiling from snapshots that are not told apart -/

/-- Neither snapshot has a state, or their states are not told apart and the second may be written
down. -/
inductive SameSnapshots (c : Compiler) : Snapshot → Snapshot → Prop
  | fresh : SameSnapshots c .fresh .fresh
  | compiled {s t : ViewState} (alike : c.SameView s t) (stable : c.StateStable t) :
      SameSnapshots c (.compiled s) (.compiled t)

/-- Both compilations fail with one error, or both execute one definition, if any, and return
snapshots that are not told apart. -/
inductive SameAnswers (c : Compiler) :
    Except CompileError Outcome → Except CompileError Outcome → Prop
  | error (e : CompileError) : SameAnswers c (.error e) (.error e)
  | ok (d : Option ViewDefinition) {a b : Snapshot} (alike : c.SameSnapshots a b) :
      SameAnswers c (.ok ⟨d, a⟩) (.ok ⟨d, b⟩)

variable {a b : Snapshot} {request : Request}

/-- Writing the second down and reading it back makes no difference. -/
theorem SameSnapshots.reparsed (h : c.SameSnapshots a b) : c.SameSnapshots a b.reparsed := by
  cases h with
  | fresh => exact .fresh
  | compiled alike stable =>
      exact .compiled (alike.trans stable.sameView_reparsed) (stateStable_reparsed _)

theorem SameSnapshots.exposures_eq (h : c.SameSnapshots a b) :
    a.state?.map ViewState.exposures = b.state?.map ViewState.exposures := by
  cases h with
  | fresh => rfl
  | compiled alike _ => exact congrArg some alike.exposures_eq

theorem SameSnapshots.upToDate_iff (h : c.SameSnapshots a b) :
    c.UpToDate a request ↔ c.UpToDate b request := by
  cases h with
  | fresh => rfl
  | @compiled s t alike _ =>
      simp only [UpToDate, Snapshot.compiled.injEq, exists_eq_left', alike.contains_eq]

/-- They start from states that are not told apart, and leave the engine alike. -/
theorem SameSnapshots.start (h : c.SameSnapshots a b) (engine : Engine σ) (world : σ) :
    ((c.start engine a).result world).2 = ((c.start engine b).result world).2 ∧
      c.SameView ((c.start engine a).result world).1 ((c.start engine b).result world).1 ∧
      c.StateStable ((c.start engine b).result world).1 := by
  cases h with
  | fresh =>
      exact ⟨rfl, .refl _, fun column type _ htype =>
        ViewState.stable_columnType?_introspect engine c.table c.viewName world htype⟩
  | compiled alike stable => exact ⟨rfl, alike, stable⟩

/-- Deploying them asks the engine for the same and gives the same answer. -/
theorem SameView.deploy (hsource : c.SourceStable) (h : c.SameView s t) (hstable : c.StateStable t)
    (engine : Engine σ) (world : σ) :
    ((c.deploy engine s).result world).2 = ((c.deploy engine t).result world).2 ∧
      c.SameAnswers ((c.deploy engine s).result world).1
        ((c.deploy engine t).result world).1 := by
  have hrendered : (c.render s).value = (c.render t).value := h.value_render_eq
  rw [result_deploy, result_deploy]
  cases hrender : (c.render t).value with
  | error e =>
      rw [hrender] at hrendered
      simp only [hrendered, true_and]
      exact .error _
  | ok d =>
      rw [hrender] at hrendered
      rcases hexecute : (engine.execute d.sql).result world with ⟨e | ⟨⟩, later⟩
      · simp only [hrendered, hexecute, true_and]
        exact .error _
      · simp only [hrendered, hexecute, true_and]
        exact .ok (some d) (.compiled h.recordTypes (hstable.recordTypes hsource))

/-- So does compiling. -/
theorem SameSnapshots.compile (hsource : c.SourceStable) (h : c.SameSnapshots a b)
    (engine : Engine σ) (request : Request) (world : σ) :
    ((c.compile engine a request).result world).2 =
        ((c.compile engine b request).result world).2 ∧
      c.SameAnswers ((c.compile engine a request).result world).1
        ((c.compile engine b request).result world).1 := by
  by_cases hknown : c.UpToDate a request
  · rw [result_compile_of_upToDate engine hknown,
      result_compile_of_upToDate engine (h.upToDate_iff.mp hknown)]
    exact ⟨rfl, .ok none h⟩
  · obtain ⟨hworld, halike, hstable⟩ := h.start engine world
    rw [result_compile_of_not_upToDate engine hknown,
      result_compile_of_not_upToDate engine (mt h.upToDate_iff.mpr hknown), hworld]
    exact (halike.extend _).deploy hsource (hstable.extend _) engine _

/-! ### Runs -/

/-- The point after a turn whose snapshot is written down and read back, if it can be read.  A call
that fails returns no snapshot. -/
def nextWritten? (c : Compiler) (engine : Engine σ) (p : Point σ) (turn : Turn σ) :
    Option (Point σ) :=
  match c.call engine p turn with
  | (.ok o, world) => (Snapshot.read? o.snapshot.written).map fun snapshot => ⟨snapshot, world⟩
  | (.error _, world) => some ⟨p.snapshot, world⟩

/-- The point after some turns, each snapshot of which is written down and read back. -/
def runWritten? (c : Compiler) (engine : Engine σ) (p : Point σ) (turns : List (Turn σ)) :
    Option (Point σ) :=
  turns.foldlM (c.nextWritten? engine) p

/-- The points of the two runs: the engine is the same, and the snapshots are not told apart. -/
structure SamePoints (c : Compiler) (p q : Point σ) : Prop where
  snapshots : c.SameSnapshots p.snapshot q.snapshot
  worlds : p.world = q.world

variable {p q : Point σ}

theorem SamePoints.call (hsource : c.SourceStable) (h : c.SamePoints p q) (engine : Engine σ)
    (turn : Turn σ) :
    (c.call engine p turn).2 = (c.call engine q turn).2 ∧
      c.SameAnswers (c.call engine p turn).1 (c.call engine q turn).1 := by
  rw [Compiler.call, Compiler.call, ← h.worlds]
  exact h.snapshots.compile hsource engine.traced turn.request _

/-- What is read back after a turn is not told apart from what was kept. -/
theorem SamePoints.next (hsource : c.SourceStable) (h : c.SamePoints p q) (engine : Engine σ)
    (turn : Turn σ) :
    ∃ later, c.nextWritten? engine q turn = some later ∧
      c.SamePoints (c.next engine p turn) later := by
  obtain ⟨hworld, hanswers⟩ := h.call hsource engine turn
  rw [Compiler.next, nextWritten?]
  rcases hp : c.call engine p turn with ⟨first, world⟩
  rcases hq : c.call engine q turn with ⟨second, other⟩
  rw [hp, hq] at hworld hanswers
  obtain rfl : world = other := hworld
  cases hanswers with
  | error e => exact ⟨_, rfl, h.snapshots, rfl⟩
  | ok d alike =>
      dsimp only
      rw [Snapshot.read?_written]
      exact ⟨_, rfl, alike.reparsed, rfl⟩

/-- Nor after a run, by induction on its turns. -/
theorem SamePoints.run (hsource : c.SourceStable) (h : c.SamePoints p q) (engine : Engine σ)
    (turns : List (Turn σ)) :
    ∃ later, c.runWritten? engine q turns = some later ∧
      c.SamePoints (c.run engine p turns) later := by
  induction turns generalizing p q with
  | nil => exact ⟨q, rfl, h⟩
  | cons turn turns ih =>
      obtain ⟨between, hnext, hbetween⟩ := h.next hsource engine turn
      obtain ⟨later, hrest, hlater⟩ := ih hbetween
      refine ⟨later, ?_, hlater⟩
      rw [runWritten?, List.foldlM_cons, hnext]
      exact hrest

theorem SameAnswers.shown_eq {first second : Except CompileError Outcome}
    (h : c.SameAnswers first second) :
    first.map Outcome.shown = second.map Outcome.shown := by
  cases h with
  | error e => rfl
  | ok d alike =>
      simp only [Except.map, Outcome.shown, Outcome.sql?, alike.exposures_eq]

/-- A run that writes down every snapshot that is returned, and reads it back before the next call,
never fails to read one.  Call by call it gives the statement or the error that the run gives which
keeps its snapshots, leaves the engine as that does, its calls included, and exposes the same,
whatever types the source and the live view report. -/
theorem runWritten?_shows_the_same (table : FieldTable) (name : String)
    (generation target : Generation) (columns : List ColumnInfo) (engine : Engine σ)
    (world : Traced σ) (turns : List (Turn σ)) (turn : Turn σ) :
    let c : Compiler := ⟨table, .ofColumns name generation columns, target⟩
    let kept := c.run engine ⟨.fresh, world⟩ turns
    ∃ written, c.runWritten? engine ⟨.fresh, world⟩ turns = some written ∧
      (c.call engine written turn).1.map Outcome.shown =
        (c.call engine kept turn).1.map Outcome.shown ∧
      (c.call engine written turn).2 = (c.call engine kept turn).2 ∧
      written.snapshot.state?.map ViewState.exposures =
        kept.snapshot.state?.map ViewState.exposures := by
  intro c kept
  have hsource : c.SourceStable := fun column type =>
    SourceTable.stable_columnType?_ofColumns
  have hstart : c.SamePoints (⟨.fresh, world⟩ : Point σ) ⟨.fresh, world⟩ := ⟨.fresh, rfl⟩
  obtain ⟨written, hrun, halike⟩ := hstart.run hsource engine turns
  obtain ⟨hworld, hanswers⟩ := halike.call hsource engine turn
  exact ⟨written, hrun, hanswers.shown_eq.symm, hworld.symm, halike.snapshots.exposures_eq.symm⟩

end Compiler
end CostView
