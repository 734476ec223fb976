import CostView.Proofs.Releases
import CostView.Proofs.Resolutions
import CostView.Proofs.RowValues

/-!
# Values through two views

A flat table can be viewed with its columns collected into maps, and that view again flat.  A column
that is seen through both has the value that it has in the table: the first view puts it where its
counterpart is, and the second takes it from there.  It is NULL only where the table has no such
column.
-/

namespace CostView

open FieldTable (builtIn)

/-! ### Counterparts -/

namespace FieldTable

/-- Where a column of generation one is in generation two: where its entry says, or under the key
that its name holds. -/
def counterpart? (t : FieldTable) (name : String) : Option Exposure :=
  match t.entry? name with
  | some e =>
    match e.counterpart.subscript? with
    | some (container, key) => some (.ofKey container key)
    | none => e.counterpart.column?.map .ofColumn
  | none => (t.splitColumn? name).map fun p => .ofKey p.1.name p.2

/-- The two kinds of counterparts: a column of the same name, and a key of a map column. -/
inductive IsCounterpart (name : String) : Exposure → Prop
  | column {e : FieldEntry} (plain : Column.needsQuoting name = false)
      (listed : builtIn.entry? name = some e) (same : e.counterpart = Column.expr name) :
      IsCounterpart name (.ofColumn name)
  | key {container key : String} (known : builtIn.isMapField container = true)
      (flat : flatColumn container key = name)
      (listed : (∃ e, builtIn.entry? name = some e ∧
          e.counterpart = .subscript (.column container) key) ∨
        (builtIn.entry? name = none ∧ ∃ m, builtIn.splitColumn? name = some (m, key) ∧
          m.name = container)) :
      IsCounterpart name (.ofKey container key)

variable {name : String} {x : Exposure}

theorem isCounterpart_of_counterpart? (h : builtIn.counterpart? name = some x) :
    IsCounterpart name x := by
  rw [counterpart?] at h
  cases hentry : builtIn.entry? name with
  | none =>
      rw [hentry] at h
      obtain ⟨⟨m, key⟩, hsplit, rfl⟩ := Option.map_eq_some_iff.mp h
      obtain ⟨hmem, hflat⟩ := of_splitColumn? hsplit
      exact .key (isMapField_of_mem hmem) hflat (Or.inr ⟨hentry, m, hsplit, rfl⟩)
  | some e =>
      rw [hentry] at h
      obtain ⟨hregular, hcolumn⟩ := regular_of_entry? hentry
      cases hregular with
      | @same own type isDefault plain _ =>
          obtain rfl : own = name := hcolumn
          simp only [same, subscript?_expr, column?_expr, Option.map_some, Option.some.injEq] at h
          exact h ▸ .column plain hentry rfl
      | @keyed container key type isDefault known _ _ =>
          simp only [keyed, Expr.subscript?, Option.some.injEq] at h
          exact h ▸ .key known hcolumn (Or.inl ⟨_, hentry, rfl⟩)

end FieldTable

open FieldTable (IsCounterpart)

/-- The value of a column, or of a key of a map column. -/
def Exposure.denote {α : Type} (row : Row α) (x : Exposure) : Value α :=
  match x.key with
  | none => row.column x.column
  | some key => (row.column x.column).at key

namespace Compiler

section

variable {α : Type} {c : Compiler} {s : ViewState} {row : Row α} {name : String} {x : Exposure}
  {d : ViewDefinition}

/-! ### Into maps -/

/-- A column that is no map column comes from the source column of the same name. -/
theorem IntoMaps.resolve_column (h : c.IntoMaps) {e : FieldEntry}
    (hmap : builtIn.isMapField name = false) (hentry : builtIn.entry? name = some e)
    (hsame : e.counterpart = Column.expr name) :
    (c.crosswalk.resolve name).value = .ok (.derived (Column.expr name) [name]) := by
  rw [Crosswalk.value_resolve_toMap_eq_ok_iff h.source h.target, crosswalk, h.table]
  refine Or.inr ⟨by simpa [FieldTable.isMapField] using hmap, ?_⟩
  -- Its own entry need not be the first that is found, but the one that is has the same name.
  have hfound : (builtIn.entryOfColumn? name).isSome = true := by
    rw [FieldTable.entryOfColumn?, List.find?_isSome]
    refine ⟨e, List.mem_of_find?_eq_some hentry, ?_⟩
    rw [hsame, FieldTable.column?_expr]
    simp
  obtain ⟨first, hfirst⟩ := Option.isSome_iff_exists.mp hfound
  obtain ⟨-, type, -, isDefault, rfl⟩ := FieldTable.eq_same_of_entryOfColumn? hfirst
  refine ⟨_, hfirst, ?_⟩
  rw [FieldTable.same, Crosswalk.passThrough, columns_expr]

theorem IntoMaps.resolve_map (h : c.IntoMaps) {container : String}
    (hmap : builtIn.isMapField container = true) :
    ∃ m, m.name = container ∧ (c.crosswalk.resolve container).value = .ok (.assembly m) := by
  obtain ⟨m, hm⟩ := FieldTable.isMapField_iff.mp hmap
  refine ⟨m, (FieldTable.of_mapField? hm).2, ?_⟩
  rw [Crosswalk.value_resolve_toMap_eq_ok_iff h.source h.target, crosswalk, h.table]
  exact Or.inl ⟨m, hm, rfl⟩

/-- The counterpart of a column holds what the source has in that column. -/
theorem IntoMaps.denote_counterpart (h : c.IntoMaps) (hx : IsCounterpart name x)
    (hmap : builtIn.isMapField name = false) (hcontains : s.contains x = true) :
    x.denote (c.valueOf s row) = c.source.valueOf row name := by
  cases hx with
  | column plain listed same =>
      have hresolve := h.resolve_column hmap listed same
      show c.valueOf s row (Text.lowered name) = _
      rw [Column.lowered_eq_self plain, valueOf_of_resolve hresolve, denote, denote_expr,
        SourceTable.valueOf, ← SourceTable.hasRequirement_plain plain]
      simp
  | @key container key known flat _ =>
      obtain ⟨m, rfl, hresolve⟩ := h.resolve_map known
      have hkey : key ∈ s.keysOf m.name := (ViewState.contains_iff.mp hcontains).2 key rfl
      show (c.valueOf s row (Text.lowered m.name)).at key = _
      rw [Column.lowered_eq_self (FieldTable.plain_of_isMapField known),
        valueOf_of_resolve hresolve, denote_assembly_at hkey, h.table,
        FieldTable.columnForKey_builtIn, flat]

/-- So does it in the view that is created, if the name can be asked for. -/
theorem IntoMaps.denote_rendered (h : c.IntoMaps) (hx : IsCounterpart name x)
    (hmap : builtIn.isMapField name = false) (hname : ']' ∉ name.toList)
    (hcontains : s.contains x = true) (hrender : (c.render s).value = .ok d) :
    x.denote (d.valueOf row) = x.denote (c.valueOf s row) := by
  obtain ⟨hcolumn, hkeys⟩ := ViewState.contains_iff.mp hcontains
  obtain ⟨value, ⟨resolution, hresolution, hyields⟩, hvalue⟩ := exists_valueOf hrender hcolumn
  cases hx with
  | column plain listed same =>
      have hresolve := h.resolve_column hmap listed same
      obtain rfl := Except.ok.inj (hresolution.symm.trans hresolve)
      show d.valueOf row (Text.lowered name) = c.valueOf s row (Text.lowered name)
      rw [Column.lowered_eq_self plain, valueOf_of_resolve hresolve]
      exact (hvalue row).trans hyields.denote_derived
  | @key container key known flat _ =>
      obtain ⟨m, rfl, hresolve⟩ := h.resolve_map known
      obtain rfl := Except.ok.inj (hresolution.symm.trans hresolve)
      have hplain := FieldTable.plain_of_isMapField known
      -- The maps may differ at keys whose columns cannot be asked for, so they are compared at this
      -- key only.
      have hasked : c.source.hasRequirement (c.table.columnForKey m.name key) =
          c.source.hasColumn (c.table.columnForKey m.name key) := by
        rw [h.table, FieldTable.columnForKey_builtIn]
        exact SourceTable.hasRequirement_flatColumn hplain (flat ▸ hname)
      show (d.valueOf row (Text.lowered m.name)).at key =
        (c.valueOf s row (Text.lowered m.name)).at key
      rw [Column.lowered_eq_self hplain, valueOf_of_resolve hresolve]
      refine Eq.trans ?_ (hyields.denote_assembly (hkeys key rfl) hasked)
      exact congrArg (fun v => Value.at v key) (hvalue row)

/-! ### Out of maps -/

/-- A compiler of a view of generation one over a source of generation two. -/
structure OutOfMaps (c : Compiler) : Prop where
  table : c.table = builtIn
  source : c.source.generation = .two
  target : c.target = .one

/-- A column that is no map column itself is the key that its entry or its name speaks of. -/
theorem OutOfMaps.resolve_key (h : c.OutOfMaps) {container key : String}
    (hmap : builtIn.isMapField name = false)
    (hlisted : (∃ e, builtIn.entry? name = some e ∧
        e.counterpart = .subscript (.column container) key) ∨
      (builtIn.entry? name = none ∧ ∃ m, builtIn.splitColumn? name = some (m, key) ∧
        m.name = container)) :
    (c.crosswalk.resolve name).value =
      .ok (.derived (.subscript (.column container) key) [subscriptText container key]) := by
  rw [Crosswalk.value_resolve_toFlat_eq_ok_iff h.source h.target, crosswalk, h.table]
  rcases hlisted with ⟨e, hentry, hcounterpart⟩ | ⟨hnone, m, hsplit, rfl⟩
  · refine Or.inr ⟨hmap, Or.inl ⟨e, hentry, ?_⟩⟩
    rw [hcounterpart, Expr.requirements]
  · exact Or.inr ⟨hmap, Or.inr ⟨hnone, m, key, hsplit, rfl⟩⟩

/-- A column is taken from its counterpart, and asks for its column. -/
theorem OutOfMaps.exists_resolve (h : c.OutOfMaps) (hx : IsCounterpart name x)
    (hmap : builtIn.isMapField name = false) :
    ∃ e r, (c.crosswalk.resolve name).value = .ok (.derived e [r]) ∧
      c.source.hasRequirement r = c.source.hasColumn x.column ∧
      ∀ {α : Type} (row : Row α), e.denote row = x.denote row := by
  cases hx with
  | @column e plain listed same =>
      refine ⟨Column.expr name, name, ?_, SourceTable.hasRequirement_plain plain,
        fun row => denote_expr name⟩
      rw [Crosswalk.value_resolve_toFlat_eq_ok_iff h.source h.target, crosswalk, h.table]
      refine Or.inr ⟨hmap, Or.inl ⟨e, listed, ?_⟩⟩
      rw [same, requirements_expr]
  | @key container key known flat listed =>
      have hplain := FieldTable.plain_of_isMapField known
      exact ⟨.subscript (.column container) key, subscriptText container key,
        h.resolve_key hmap listed, SourceTable.hasRequirement_subscriptText hplain key,
        fun row => rfl⟩

/-- If the source has that column, the value of the column is the one of its counterpart. -/
theorem OutOfMaps.valueOf_eq (h : c.OutOfMaps) (hx : IsCounterpart name x)
    (hmap : builtIn.isMapField name = false) (hcolumn : c.source.hasColumn x.column = true) :
    c.valueOf s row name = x.denote row := by
  obtain ⟨e, r, hresolve, hasked, hdenote⟩ := h.exists_resolve hx hmap
  have hall : [r].all c.source.hasRequirement = true := by simp [hasked, hcolumn]
  rw [valueOf_of_resolve hresolve, denote, if_pos hall, hdenote]

/-- So it is in the view that is created. -/
theorem OutOfMaps.valueOf_rendered (h : c.OutOfMaps) (hx : IsCounterpart name x)
    (hmap : builtIn.isMapField name = false) (hexposed : s.hasColumn name = true)
    (hrender : (c.render s).value = .ok d) : d.valueOf row name = c.valueOf s row name := by
  obtain ⟨value, ⟨resolution, hresolution, hyields⟩, hvalue⟩ := exists_valueOf hrender hexposed
  obtain ⟨e, r, hresolve, -⟩ := h.exists_resolve hx hmap
  obtain rfl := Except.ok.inj (hresolution.symm.trans hresolve)
  rw [valueOf_of_resolve hresolve]
  exact (hvalue row).trans hyields.denote_derived

/-! ### Both views -/

/-- A compilation that succeeds, by any engine and from any snapshot. -/
def Compiles (c : Compiler) (o : Outcome) : Prop :=
  ∃ (σ : Type) (engine : Engine σ) (world later : σ) (snapshot : Snapshot) (request : Request),
    (c.compile engine snapshot request).result world = (.ok o, later)

/-- The definition that it created is the rendering of a state with the same columns and keys. -/
theorem Compiles.exists_render {o : Outcome} (h : c.Compiles o) (hs : o.snapshot = .compiled s)
    (hd : o.definition = some d) :
    ∃ t, (c.render t).value = .ok d ∧ (∀ x, t.contains x = s.contains x) ∧
      ∀ column, t.hasColumn column = s.hasColumn column := by
  obtain ⟨σ, engine, world, later, snapshot, request, hcompiled⟩ := h
  rcases (result_compile_eq_ok_iff engine).mp hcompiled with
    ⟨-, rfl, -⟩ | ⟨-, start, between, rendered, -, hrender, -, rfl⟩
  · cases hd
  · obtain rfl := Option.some.inj hd
    obtain rfl := Snapshot.compiled.inj hs
    exact ⟨_, hrender, fun x => contains_recordTypes.symm, fun column => hasColumn_recordTypes.symm⟩

/-- Without a view so far, a request that is rendered can be compiled. -/
theorem compiles_of_render {request : Request}
    (h : (c.render (ViewState.empty.extend (c.requested request))).value = .ok d) :
    c.Compiles
      ⟨some d, .compiled (c.recordTypes (ViewState.empty.extend (c.requested request)))⟩ := by
  rw [← Catalog.readBack_ofTables c.table c.viewName] at h ⊢
  exact ⟨Catalog, Catalog.engine, _, _, .fresh, request, result_compile_fresh rfl h⟩

theorem hasColumn_ofColumns {view : String} {g : Generation} {s : ViewState} {column : String}
    (h : s.hasColumn column = true) :
    (SourceTable.ofColumns view g s.infos).hasColumn column = true := by
  obtain ⟨slot, hslot⟩ := Option.ne_none_iff_exists'.mp (ViewState.getElem?_ne_none_iff.mpr h)
  have hinfo : ⟨column, slot.elim "unknown" SqlType.text⟩ ∈ s.infos :=
    ViewState.mem_infos.mpr ⟨slot, hslot, rfl⟩
  exact SourceTable.hasColumn_ofColumns_iff.mpr ⟨_, hinfo, rfl⟩

/-- A column of a flat table that is seen through a view in maps, and through a view over that one
out of maps, has the value that it has in the table. -/
theorem valueOf_through_two_views {first second : Compiler} {o p : Outcome} {s t : ViewState}
    {view name : String} {x : Exposure} (hfirst : first.IntoMaps) (hsecond : second.OutOfMaps)
    (ho : first.Compiles o) (hs : o.snapshot = .compiled s)
    (hover : second.source = .ofColumns view .two s.infos)
    (hp : second.Compiles p) (ht : p.snapshot = .compiled t)
    (hmap : builtIn.isMapField name = false) (hname : ']' ∉ name.toList)
    (hx : builtIn.counterpart? name = some x) (hcontains : s.contains x = true)
    (hexposed : t.hasColumn name = true) (row : Row α) :
    second.valueOf t (first.valueOf s row) name = first.source.valueOf row name ∧
      ∀ d e, o.definition = some d → p.definition = some e →
        e.valueOf (d.valueOf row) name = first.source.valueOf row name := by
  have hcounterpart := FieldTable.isCounterpart_of_counterpart? hx
  have hcolumn : second.source.hasColumn x.column = true := by
    rw [hover]
    exact hasColumn_ofColumns (ViewState.contains_iff.mp hcontains).1
  constructor
  · rw [hsecond.valueOf_eq hcounterpart hmap hcolumn]
    exact hfirst.denote_counterpart hcounterpart hmap hcontains
  · intro d e hd he
    obtain ⟨s', hfirstRender, hsame, -⟩ := ho.exists_render hs hd
    obtain ⟨t', hsecondRender, -, hcolumns⟩ := hp.exists_render ht he
    rw [← hsame] at hcontains
    rw [← hcolumns] at hexposed
    calc e.valueOf (d.valueOf row) name
      _ = second.valueOf t' (d.valueOf row) name :=
          hsecond.valueOf_rendered hcounterpart hmap hexposed hsecondRender
      _ = x.denote (d.valueOf row) := hsecond.valueOf_eq hcounterpart hmap hcolumn
      _ = x.denote (first.valueOf s' row) :=
          hfirst.denote_rendered hcounterpart hmap hname hcontains hfirstRender
      _ = first.source.valueOf row name := hfirst.denote_counterpart hcounterpart hmap hcontains

theorem valueOf_through_two_views_at_tag :
    let first : Compiler := ⟨builtIn,
      ⟨"billing.cur", .one, .ofList [("resource_tags_user_team", SqlType.varchar)]⟩, .two⟩
    ∃ (second : Compiler) (d e : ViewDefinition), first.IntoMaps ∧ second.OutOfMaps ∧
      (∃ s, first.Compiles ⟨some d, .compiled s⟩ ∧
        second.source = .ofColumns "billing.cur2_proxy" .two s.infos) ∧
      (∃ t, second.Compiles ⟨some e, .compiled t⟩) ∧
      ∀ row : Row String, e.valueOf (d.valueOf row) "resource_tags_user_team" =
        row "resource_tags_user_team" := by
  intro first
  let collected : Request := ⟨.ofList [Field.mapKey "resource_tags" "user_team"]⟩
  let flat : Request := ⟨.ofList [Field.plain "resource_tags_user_team"]⟩
  let s := first.recordTypes (ViewState.empty.extend (first.requested collected))
  let second : Compiler := ⟨builtIn, .ofColumns "billing.cur2_proxy" .two s.infos, .one⟩
  let t := second.recordTypes (ViewState.empty.extend (second.requested flat))
  have hfirst : first.IntoMaps := ⟨rfl, rfl, rfl⟩
  have hsecond : second.OutOfMaps := ⟨rfl, rfl, rfl⟩
  have hd : (first.render (ViewState.empty.extend (first.requested collected))).value.isOk =
      true := by
    decide +kernel
  have he : (second.render (ViewState.empty.extend (second.requested flat))).value.isOk =
      true := by
    decide +kernel
  cases hfirstRender : (first.render (ViewState.empty.extend (first.requested collected))).value with
  | error _ =>
      rw [hfirstRender] at hd
      cases hd
  | ok d =>
      cases hsecondRender : (second.render (ViewState.empty.extend
          (second.requested flat))).value with
      | error _ =>
          rw [hsecondRender] at he
          cases he
      | ok e =>
          have ho := compiles_of_render hfirstRender
          have hp := compiles_of_render hsecondRender
          refine ⟨second, d, e, hfirst, hsecond, ⟨s, ho, rfl⟩, ⟨t, hp⟩, fun row => ?_⟩
          have hx : builtIn.counterpart? "resource_tags_user_team" =
              some (.ofKey "resource_tags" "user_team") := by
            decide +kernel
          have hvalue := (valueOf_through_two_views hfirst hsecond ho rfl rfl hp rfl
            (by decide +kernel) (by decide +kernel) hx (by decide +kernel) (by decide +kernel)
            row).2 d e rfl rfl
          rw [hvalue, SourceTable.valueOf, if_pos (by decide +kernel)]
          show row (Text.lowered "resource_tags_user_team") = row "resource_tags_user_team"
          rw [Column.lowered_eq_self (by decide +kernel)]

end

end Compiler
end CostView
