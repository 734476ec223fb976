import CostView.Proofs.CatalogCalls
import CostView.Proofs.DeclaredColumns

/-!
# Columns that cannot be derived

A compilation that renders its goal fails with an unknown field just if some column of the goal
cannot be derived.  Two things can stand in the way of a column: the table knows nothing in the
source that it could come from, or something that it requires is missing and there is no NULL of its
type.  Neither depends on the other columns of the goal.  So a column that was exposed before, or
that the live view has, stops a compilation in the same way as one that is requested.

Columns are rendered in ascending order, and the error names the least one that cannot be derived.
It is an error about a column; whether the engine would have accepted the statement is not asked.
-/

namespace CostView

variable {σ : Type}

/-! ### Columns that the table does not know -/

namespace FieldTable

variable {t : FieldTable} {name : String}

theorem mapField?_eq_none_iff : t.mapField? name = none ↔ ∀ m ∈ t.mapFields, m.name ≠ name := by
  simp [mapField?]

theorem isMapField_eq_false_iff :
    t.isMapField name = false ↔ ∀ m ∈ t.mapFields, m.name ≠ name := by
  rw [isMapField, Option.isSome_eq_false_iff, Option.isNone_iff_eq_none, mapField?_eq_none_iff]

theorem entry?_eq_none_iff : t.entry? name = none ↔ ∀ e ∈ t.entries, e.column ≠ name := by
  unfold entry?
  simp

theorem entryOfColumn?_eq_none_iff :
    t.entryOfColumn? name = none ↔ ∀ e ∈ t.entries, e.counterpart.column? ≠ some name := by
  simp [entryOfColumn?]

/-- The key that a column name is split into is not empty. -/
theorem ne_empty_of_splitColumn? {m : MapField} {key : String}
    (h : t.splitColumn? name = some (m, key)) : key ≠ "" := by
  obtain ⟨own, -, hpair⟩ := List.mem_filterMap.mp (mem_of_longest? h)
  obtain ⟨ownKey, hkey, hsame⟩ := Option.map_eq_some_iff.mp hpair
  obtain ⟨rfl, rfl⟩ := Prod.mk.inj hsame
  unfold keyAfter? at hkey
  split at hkey
  · obtain rfl := Option.some.inj hkey
    rw [ne_eq, ← String.toList_eq_nil_iff, String.toList_ofList]
    exact List.cons_ne_nil _ _
  · cases hkey

/-- A name is not split just if it is not made of a map column, an underscore and something more. -/
theorem splitColumn?_eq_none_iff :
    t.splitColumn? name = none ↔
      ∀ m ∈ t.mapFields, ∀ key, key ≠ "" → flatColumn m.name key ≠ name := by
  constructor
  · rintro hnone m hm key hkey rfl
    obtain ⟨p, hp⟩ := exists_splitColumn?_flatColumn hm hkey
    rw [hnone] at hp
    cases hp
  · intro hunsplit
    cases hsplit : t.splitColumn? name with
    | none => rfl
    | some p =>
        obtain ⟨m, key⟩ := p
        obtain ⟨hm, hname⟩ := of_splitColumn? hsplit
        exact absurd hname (hunsplit m hm key (ne_empty_of_splitColumn? hsplit))

end FieldTable

namespace Crosswalk

variable {t : Crosswalk} {field : String} {e : UnknownField}

/-- The table knows nothing in the source that a column of the target layout could come from: the
column is no map column, no entry lists it, and out of maps it is not named after one either. -/
inductive Unmatched (t : Crosswalk) (field : String) : Underivable → Prop
  | noFlatColumn (source : t.source = .one) (target : t.target = .two)
      (noMap : ∀ m ∈ t.table.mapFields, m.name ≠ field)
      (unlisted : ∀ e ∈ t.table.entries, e.counterpart.column? ≠ some field) :
      Unmatched t field .noFlatColumn
  | noExpression (source : t.source = .two) (target : t.target = .one)
      (noMap : ∀ m ∈ t.table.mapFields, m.name ≠ field)
      (unlisted : ∀ e ∈ t.table.entries, e.column ≠ field)
      (unsplit : ∀ m ∈ t.table.mapFields, ∀ key, key ≠ "" → flatColumn m.name key ≠ field) :
      Unmatched t field .noExpression

theorem not_unmatched_of_same (h : t.source = t.target) {cause : Underivable} :
    ¬ t.Unmatched field cause := by
  rintro (⟨source, target, -, -⟩ | ⟨source, target, -, -, -⟩)
  · rw [source, target] at h
    cases h
  · rw [source, target] at h
    cases h

theorem unmatched_toMap_iff (hsource : t.source = .one) (htarget : t.target = .two)
    {cause : Underivable} :
    t.Unmatched field cause ↔ cause = .noFlatColumn ∧ t.table.mapField? field = none ∧
      t.table.entryOfColumn? field = none := by
  rw [FieldTable.mapField?_eq_none_iff, FieldTable.entryOfColumn?_eq_none_iff]
  constructor
  · rintro (⟨-, -, hmap, hlisted⟩ | ⟨source, -, -, -, -⟩)
    · exact ⟨rfl, hmap, hlisted⟩
    · rw [hsource] at source
      cases source
  · rintro ⟨rfl, hmap, hlisted⟩
    exact .noFlatColumn hsource htarget hmap hlisted

theorem unmatched_toFlat_iff (hsource : t.source = .two) (htarget : t.target = .one)
    {cause : Underivable} :
    t.Unmatched field cause ↔ cause = .noExpression ∧ t.table.isMapField field = false ∧
      t.table.entry? field = none ∧ t.table.splitColumn? field = none := by
  rw [FieldTable.isMapField_eq_false_iff, FieldTable.entry?_eq_none_iff,
    FieldTable.splitColumn?_eq_none_iff]
  constructor
  · rintro (⟨source, -, -, -⟩ | ⟨-, -, hmap, hlisted, hsplit⟩)
    · rw [hsource] at source
      cases source
    · exact ⟨rfl, hmap, hlisted, hsplit⟩
  · rintro ⟨rfl, hmap, hlisted, hsplit⟩
    exact .noExpression hsource htarget hmap hlisted hsplit

/-- A column is not resolved just if nothing in the source matches it. -/
theorem value_resolve_eq_error_iff :
    (t.resolve field).value = .error e ↔
      e.field = field ∧ e.target = t.target ∧ t.Unmatched field e.cause := by
  obtain ⟨own, target, cause⟩ := e
  rcases t.kinds with hsame | ⟨hsource, htarget⟩ | ⟨hsource, htarget⟩
  · simp [value_resolve_same hsame, not_unmatched_of_same hsame]
  · rw [value_resolve_toMap_eq_error_iff hsource htarget, unmatched_toMap_iff hsource htarget,
      htarget, UnknownField.mk.injEq, and_assoc, and_assoc]
  · rw [value_resolve_toFlat_eq_error_iff hsource htarget, unmatched_toFlat_iff hsource htarget,
      htarget, UnknownField.mk.injEq, and_assoc, and_assoc]

theorem not_unmatched_of_resolve {r : Resolution} (h : (t.resolve field).value = .ok r)
    {cause : Underivable} : ¬ t.Unmatched field cause := by
  intro hunmatched
  have herror : (t.resolve field).value = .error ⟨field, t.target, cause⟩ :=
    value_resolve_eq_error_iff.mpr ⟨rfl, rfl, hunmatched⟩
  rw [h] at herror
  cases herror

end Crosswalk

/-! ### Columns that cannot be rendered -/

/-- Nothing is rendered in place of a missing requirement just if there is no NULL of the type. -/
theorem value_synthesizeNull_eq_error_iff {target : Generation} {field requirement : String}
    {type : Option SqlType} {e : UnknownField} :
    (synthesizeNull target field requirement type).value = .error e ↔
      e.field = field ∧ e.target = target ∧
        ((type = none ∧ e.cause = .missing requirement) ∨
          ∃ known, type = some known ∧ known.nullLiteral? = none ∧
            e.cause = .missingTyped requirement known) := by
  obtain ⟨own, ownTarget, cause⟩ := e
  cases type with
  | none => simp [synthesizeNull, eq_comm]
  | some known =>
      cases hliteral : known.nullLiteral? with
      | none => simp [synthesizeNull, hliteral, eq_comm]
      | some literal => simp [synthesizeNull, hliteral]

namespace Compiler

variable {c : Compiler} {s : ViewState} {column : String} {e : UnknownField}

/-- The first requirement of a column that the source does not have. -/
def LacksFirst (c : Compiler) (column requirement : String) : Prop :=
  ∃ resolution before after, (c.crosswalk.resolve column).value = .ok resolution ∧
    resolution.requirements = before ++ requirement :: after ∧
    (∀ other ∈ before, c.source.hasRequirement other = true) ∧
    c.source.hasRequirement requirement = false

/-- What stands in the way of a column of a state: nothing in the source matches it, or something
that it requires is missing while its type is not known or has no NULL. -/
inductive Obstructed (c : Compiler) (s : ViewState) (column : String) : Underivable → Prop
  | unmatched {cause : Underivable} (unmatched : c.crosswalk.Unmatched column cause) :
      Obstructed c s column cause
  | untyped {requirement : String} (lacks : c.LacksFirst column requirement)
      (untyped : c.targetType? s column = none) : Obstructed c s column (.missing requirement)
  | nullless {requirement : String} {type : SqlType} (lacks : c.LacksFirst column requirement)
      (typed : c.targetType? s column = some type) (nullless : type.nullLiteral? = none) :
      Obstructed c s column (.missingTyped requirement type)

theorem lacksFirst_iff {resolution : Resolution} {requirement : String}
    (h : (c.crosswalk.resolve column).value = .ok resolution) :
    c.LacksFirst column requirement ↔
      (resolution.requirements.find? fun r => !c.source.hasRequirement r) = some requirement := by
  rw [List.find?_eq_some_iff_append]
  constructor
  · rintro ⟨own, before, after, hown, hsplit, hbefore, hmissing⟩
    rw [h] at hown
    cases hown
    exact ⟨by simp [hmissing], before, after, hsplit, by simpa using hbefore⟩
  · rintro ⟨hmissing, before, after, hsplit, hbefore⟩
    exact ⟨resolution, before, after, h, hsplit, by simpa using hbefore, by simpa using hmissing⟩

/-- Some requirement is missing just if there is a first one that is. -/
theorem exists_lacksFirst_iff {resolution : Resolution}
    (h : (c.crosswalk.resolve column).value = .ok resolution) :
    (∃ requirement, c.LacksFirst column requirement) ↔
      ∃ requirement ∈ resolution.requirements, c.source.hasRequirement requirement = false := by
  simp only [lacksFirst_iff h]
  rw [← Option.isSome_iff_exists, List.find?_isSome]
  simp

/-- Whether something stands in the way of a column, without what it is. -/
theorem exists_obstructed_iff :
    (∃ cause, c.Obstructed s column cause) ↔
      (∃ cause, c.crosswalk.Unmatched column cause) ∨
        ∃ resolution, (c.crosswalk.resolve column).value = .ok resolution ∧
          (∃ requirement ∈ resolution.requirements,
            c.source.hasRequirement requirement = false) ∧
          ∀ type, c.targetType? s column = some type → type.nullLiteral? = none := by
  constructor
  · rintro ⟨cause, hunmatched | ⟨hlacks, htype⟩ | ⟨hlacks, htype, hnull⟩⟩
    · exact Or.inl ⟨cause, hunmatched⟩
    · obtain ⟨resolution, -, -, hresolve, -⟩ := id hlacks
      refine Or.inr ⟨resolution, hresolve, (exists_lacksFirst_iff hresolve).mp ⟨_, hlacks⟩, ?_⟩
      intro type hsome
      rw [htype] at hsome
      cases hsome
    · obtain ⟨resolution, -, -, hresolve, -⟩ := id hlacks
      refine Or.inr ⟨resolution, hresolve, (exists_lacksFirst_iff hresolve).mp ⟨_, hlacks⟩, ?_⟩
      intro type hsome
      rw [htype] at hsome
      cases hsome
      exact hnull
  · rintro (⟨cause, hunmatched⟩ | ⟨resolution, hresolve, hmissing, hnull⟩)
    · exact ⟨cause, .unmatched hunmatched⟩
    · obtain ⟨requirement, hlacks⟩ := (exists_lacksFirst_iff hresolve).mpr hmissing
      cases htype : c.targetType? s column with
      | none => exact ⟨_, .untyped hlacks htype⟩
      | some type => exact ⟨_, .nullless hlacks htype (hnull type htype)⟩

/-- All that can stand in the way of a column that is resolved is its first missing requirement. -/
theorem obstructed_iff_of_resolve {resolution : Resolution}
    (hresolve : (c.crosswalk.resolve column).value = .ok resolution) {cause : Underivable} :
    c.Obstructed s column cause ↔
      ∃ requirement, (resolution.requirements.find? fun r => !c.source.hasRequirement r) =
          some requirement ∧
        ((c.targetType? s column = none ∧ cause = .missing requirement) ∨
          ∃ known, c.targetType? s column = some known ∧ known.nullLiteral? = none ∧
            cause = .missingTyped requirement known) := by
  simp only [← lacksFirst_iff hresolve]
  constructor
  · intro h
    cases h with
    | unmatched hunmatched => exact absurd hunmatched (Crosswalk.not_unmatched_of_resolve hresolve)
    | untyped lacks untyped => exact ⟨_, lacks, Or.inl ⟨untyped, rfl⟩⟩
    | nullless lacks typed nullless => exact ⟨_, lacks, Or.inr ⟨_, typed, nullless, rfl⟩⟩
  · rintro ⟨requirement, hlacks, ⟨htype, rfl⟩ | ⟨known, htype, hnull, rfl⟩⟩
    · exact .untyped hlacks htype
    · exact .nullless hlacks htype hnull

/-- What is resolved is synthesized unless there is no NULL for its first missing requirement. -/
theorem value_synthesize_eq_error_iff {resolution : Resolution}
    (hresolve : (c.crosswalk.resolve column).value = .ok resolution) :
    (synthesize c.table c.target c.source.hasRequirement column (c.targetType? s column)
        resolution (s.keysOf column)).value = .error e ↔
      e.field = column ∧ e.target = c.target ∧ c.Obstructed s column e.cause := by
  rw [obstructed_iff_of_resolve hresolve]
  cases resolution with
  | assembly container =>
      unfold synthesize
      by_cases hkeys : (s.keysOf column).isEmpty = true
      · simp [hkeys, Resolution.requirements]
      · simp [hkeys, Resolution.requirements]
  | derived expr requirements =>
      cases hfind : requirements.find? fun r => !c.source.hasRequirement r with
      | none => simp [synthesize, hfind, Resolution.requirements]
      | some requirement =>
          rw [synthesize, hfind]
          show (synthesizeNull _ _ _ _).value = _ ↔ _
          rw [value_synthesizeNull_eq_error_iff]
          simp [Resolution.requirements, hfind]

/-- A column fails to be rendered just if something stands in its way, and the error says what. -/
theorem value_renderColumn_eq_error_iff :
    (c.renderColumn s column).value = .error e ↔
      e.field = column ∧ e.target = c.target ∧ c.Obstructed s column e.cause := by
  obtain ⟨field, target, cause⟩ := e
  rw [renderColumn, Noted.value_bind]
  cases hresolve : (c.crosswalk.resolve column).value with
  | error own =>
      constructor
      · intro h
        cases h
        obtain ⟨hfield, htarget, hunmatched⟩ := Crosswalk.value_resolve_eq_error_iff.mp hresolve
        exact ⟨hfield, htarget, .unmatched hunmatched⟩
      · -- A column that is not resolved has no requirements that could be missing.
        rintro ⟨hfield, htarget, hunmatched | ⟨hlacks, -⟩ | ⟨hlacks, -, -⟩⟩
        · have herror := Crosswalk.value_resolve_eq_error_iff.mpr ⟨hfield, htarget, hunmatched⟩
          rw [hresolve] at herror
          cases herror
          rfl
        · obtain ⟨_, -, -, hok, -⟩ := hlacks
          rw [hresolve] at hok
          cases hok
        · obtain ⟨_, -, -, hok, -⟩ := hlacks
          rw [hresolve] at hok
          cases hok
  | ok resolution =>
      rw [← value_synthesize_eq_error_iff hresolve]
      exact Noted.value_map_eq_error_iff

/-- Nothing stands in the way of a column that is rendered. -/
theorem not_obstructed_of_renderColumn {item : SelectItem}
    (h : (c.renderColumn s column).value = .ok item) (cause : Underivable) :
    ¬ c.Obstructed s column cause := by
  intro hobstructed
  have herror := (value_renderColumn_eq_error_iff (e := ⟨column, c.target, cause⟩)).mpr
    ⟨rfl, rfl, hobstructed⟩
  rw [h] at herror
  cases herror

/-- Columns fail to be rendered just if one of them is obstructed, and the error is about the first
such column. -/
theorem value_renderColumns_eq_error_iff {columns : List String} :
    (c.renderColumns s columns).value = .error e ↔
      ∃ before after, columns = before ++ e.field :: after ∧
        (∀ column ∈ before, ∀ cause, ¬ c.Obstructed s column cause) ∧
        e.target = c.target ∧ c.Obstructed s e.field e.cause := by
  induction columns with
  | nil => simp [renderColumns]
  | cons column rest ih =>
      rw [renderColumns, Noted.value_bind]
      cases hcolumn : (c.renderColumn s column).value with
      | error own =>
          obtain ⟨hfield, htarget, hobstructed⟩ := value_renderColumn_eq_error_iff.mp hcolumn
          constructor
          · intro h
            cases h
            exact ⟨[], rest, by rw [hfield]; rfl, by simp, htarget, hfield ▸ hobstructed⟩
          · rintro ⟨before, after, hsplit, hbefore, hown, hfirst⟩
            cases before with
            | nil =>
                obtain ⟨rfl, -⟩ := List.cons.inj hsplit
                have herror := value_renderColumn_eq_error_iff.mpr ⟨rfl, hown, hfirst⟩
                rw [hcolumn] at herror
                cases herror
                rfl
            | cons other before =>
                obtain ⟨rfl, -⟩ := List.cons.inj hsplit
                exact absurd hobstructed (hbefore column List.mem_cons_self own.cause)
      | ok item =>
          have hclear := not_obstructed_of_renderColumn hcolumn
          refine Noted.value_map_eq_error_iff.trans (ih.trans ?_)
          constructor
          · rintro ⟨before, after, rfl, hbefore, hfirst⟩
            exact ⟨column :: before, after, rfl, List.forall_mem_cons.mpr ⟨hclear, hbefore⟩, hfirst⟩
          · rintro ⟨before, after, hsplit, hbefore, htarget, hfirst⟩
            cases before with
            | nil =>
                obtain ⟨rfl, -⟩ := List.cons.inj hsplit
                exact absurd hfirst (hclear e.cause)
            | cons other before =>
                obtain ⟨rfl, rfl⟩ := List.cons.inj hsplit
                exact ⟨before, after, rfl, (List.forall_mem_cons.mp hbefore).2, htarget, hfirst⟩

/-- The names of the columns are in ascending order. -/
theorem pairwise_columnNames (s : ViewState) : s.columnNames.Pairwise (· < ·) := by
  have hordered : s.columnNames.Pairwise fun a b => compare a b = .lt :=
    Std.ExtTreeMap.ordered_keys
  exact hordered.imp compareOfLessAndEq_eq_lt.mp

/-- A state fails to be rendered just if one of its columns is obstructed, and the error is about
the least such column. -/
theorem value_render_eq_error_iff :
    (c.render s).value = .error e ↔
      s.hasColumn e.field = true ∧ e.target = c.target ∧ c.Obstructed s e.field e.cause ∧
        ∀ column, s.hasColumn column = true → column < e.field →
          ∀ cause, ¬ c.Obstructed s column cause := by
  rw [render, Noted.value_map_eq_error_iff, value_renderColumns_eq_error_iff]
  have hsorted := pairwise_columnNames s
  simp only [← ViewState.mem_columnNames]
  generalize s.columnNames = columns at hsorted ⊢
  constructor
  · rintro ⟨before, after, rfl, hbefore, htarget, hfirst⟩
    refine ⟨by simp, htarget, hfirst, fun column hcolumn hless => ?_⟩
    rcases List.mem_append.mp hcolumn with hmem | hmem
    · exact hbefore column hmem
    · -- What stands behind a column is greater.
      rw [List.pairwise_append, List.pairwise_cons] at hsorted
      rcases List.mem_cons.mp hmem with heq | hafter
      · rw [heq] at hless
        exact absurd hless (String.lt_irrefl e.field)
      · exact absurd (String.lt_trans hless (hsorted.2.1.1 column hafter)) (String.lt_irrefl column)
  · rintro ⟨hmem, htarget, hfirst, hleast⟩
    obtain ⟨before, after, rfl⟩ := List.append_of_mem hmem
    refine ⟨before, after, rfl, fun column hcolumn => ?_, htarget, hfirst⟩
    rw [List.pairwise_append] at hsorted
    exact hleast column (by simp [hcolumn])
      (hsorted.2.2 column hcolumn e.field List.mem_cons_self)

/-- The type of a column of a state: the declared one, else the recorded one, else that of the
source column where source and target are of one generation. -/
theorem targetType?_eq_some_iff {type : SqlType} :
    c.targetType? s column = some type ↔
      c.table.declaredType? c.target column = some type ∨
      c.table.declaredType? c.target column = none ∧
        (s.columnType? column = some type ∨
          s.columnType? column = none ∧ c.source.generation = c.target ∧
            c.source.columnType? column = some type) := by
  rw [targetType?]
  cases c.table.declaredType? c.target column with
  | some declared => simp
  | none =>
      cases s.columnType? column with
      | some recorded => simp
      | none => simp

/-- A state fails to be rendered just if one of its columns is obstructed. -/
theorem exists_render_error_iff :
    (∃ e, (c.render s).value = .error e) ↔
      ∃ column, s.hasColumn column = true ∧ ∃ cause, c.Obstructed s column cause := by
  constructor
  · rintro ⟨e, he⟩
    obtain ⟨hcolumn, -, hobstructed, -⟩ := value_render_eq_error_iff.mp he
    exact ⟨e.field, hcolumn, e.cause, hobstructed⟩
  · rintro ⟨column, hcolumn, cause, hobstructed⟩
    cases hrender : (c.render s).value with
    | error e => exact ⟨e, rfl⟩
    | ok d =>
        -- Then every column would be rendered, this one too.
        obtain ⟨value, hvalue⟩ := exists_render_iff.mp ⟨d, hrender⟩ column hcolumn
        have hok : (c.renderColumn s column).value = .ok ⟨column, value⟩ :=
          value_renderColumn_eq_ok_iff.mpr ⟨rfl, hvalue⟩
        exact absurd hobstructed (not_obstructed_of_renderColumn hok cause)

/-- A deployment ends with an unknown field just if the state fails to be rendered: what the engine
refuses is an error of the catalog. -/
theorem deploy_eq_unknownField_iff (engine : Engine σ) {world : σ} :
    ((c.deploy engine s).result world).1 = .error (.unknownField e) ↔
      (c.render s).value = .error e := by
  rw [result_deploy]
  cases (c.render s).value with
  | error own => simp
  | ok d =>
      dsimp only
      rcases (engine.execute d.sql).result world with ⟨_ | ⟨⟩, later⟩
      · simp
      · simp

/-- A compilation that does not leave the view alone fails with an unknown field just if a column
of its goal cannot be derived: nothing in the source matches it, or something that it requires is
missing and neither a declared nor a recorded type, nor that of the source column in a source of the
same generation, has a NULL.  The error names the least such column and says what stands in its way.
The columns of the goal are those of the known state or the live view and those that are requested,
and it makes no difference which of them a column is. -/
theorem compile_unknownField_iff (c : Compiler) (engine : Engine σ) {snapshot : Snapshot}
    {request : Request} (world : σ) (h : ¬ c.UpToDate snapshot request) :
    let goal := c.goal engine snapshot request world
    let result := ((c.compile engine snapshot request).result world).1
    ((∃ e, result = .error (.unknownField e)) ↔
      ∃ column, goal.hasColumn column = true ∧
        ((∃ cause, c.crosswalk.Unmatched column cause) ∨
          ∃ resolution, (c.crosswalk.resolve column).value = .ok resolution ∧
            (∃ requirement ∈ resolution.requirements,
              c.source.hasRequirement requirement = false) ∧
            ∀ type,
              (c.table.declaredType? c.target column = some type ∨
                c.table.declaredType? c.target column = none ∧
                  (goal.columnType? column = some type ∨
                    goal.columnType? column = none ∧ c.source.generation = c.target ∧
                      c.source.columnType? column = some type)) →
              type.nullLiteral? = none)) ∧
    (∀ e, result = .error (.unknownField e) ↔
      goal.hasColumn e.field = true ∧ e.target = c.target ∧ c.Obstructed goal e.field e.cause ∧
        ∀ column, goal.hasColumn column = true → column < e.field →
          ∀ cause, ¬ c.Obstructed goal column cause) ∧
    ∀ column, goal.hasColumn column = true ↔
      ((c.start engine snapshot).result world).1.hasColumn column = true ∨
        ∃ f ∈ request.fields, (c.crosswalk.exposureOf f).column = column := by
  intro goal result
  have hresult (e : UnknownField) : result = .error (.unknownField e) ↔
      (c.render goal).value = .error e := by
    unfold result
    rw [result_compile_of_not_upToDate engine h]
    exact deploy_eq_unknownField_iff engine
  refine ⟨?_, fun e => (hresult e).trans value_render_eq_error_iff,
    fun column => hasColumn_goal engine⟩
  simp only [← targetType?_eq_some_iff, ← exists_obstructed_iff, hresult]
  exact exists_render_error_iff

/-- A column that is there already is named by the error before a greater one that is requested. -/
theorem compile_unknownField_iff_at_known_column :
    let c : Compiler := ⟨⟨"1", [], []⟩, ⟨"cur", .one, ∅⟩, .two⟩
    let known : Snapshot := .compiled (ViewState.empty.extend [.ofColumn "kept"])
    let request : Request := ⟨.ofList [Field.plain "wanted"]⟩
    ¬ c.UpToDate known request ∧
      ((c.compile Catalog.engine known request).result (Catalog.ofTables ∅)).1 =
        .error (.unknownField ⟨"kept", .two, .noFlatColumn⟩) := by
  intro c known request
  have hwanted : .ofColumn "wanted" ∈ c.requested request :=
    mem_requested.mpr ⟨.plain "wanted", by simp [request], rfl⟩
  have hstale : ¬ c.UpToDate known request := by
    rintro ⟨s, hs, hcontains⟩
    obtain rfl := Snapshot.compiled.inj hs
    exact absurd (hcontains _ hwanted) (by decide +kernel)
  obtain ⟨-, herror, hgoal⟩ :=
    compile_unknownField_iff c Catalog.engine (Catalog.ofTables ∅) hstale
  refine ⟨hstale, (herror ⟨"kept", .two, .noFlatColumn⟩).mpr
    ⟨(hgoal "kept").mpr (Or.inl (by decide +kernel)), rfl, .unmatched ?_, ?_⟩⟩
  · exact .noFlatColumn rfl rfl (List.forall_mem_nil _) (List.forall_mem_nil _)
  · intro column hcolumn hless
    rcases (hgoal column).mp hcolumn with hkept | ⟨f, hf, rfl⟩
    · obtain hnone | ⟨x, hx, rfl⟩ := ViewState.hasColumn_extend.mp hkept
      · exact absurd hnone (by simp)
      · obtain rfl := List.mem_singleton.mp hx
        exact absurd hless (String.lt_irrefl "kept")
    · obtain rfl : f = .plain "wanted" := eq_of_mem_ofList_singleton hf
      exact absurd hless (by decide +kernel)

end Compiler
end CostView
