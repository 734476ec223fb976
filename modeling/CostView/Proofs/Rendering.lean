import CostView.Compiler
import Mathlib.Tactic

/-!
# What rendering yields

The columns of a view are rendered one after the other, and the notices given on the way never
decide anything.  So the values alone are described: `Yields` lists the forms that a column can
take, each with the conditions under which it takes it, and a rendered definition holds one such
column for each column of the state, in order.
-/

namespace CostView

/-! ### Something that is made of a value afterwards -/

/-- What is made of a value is an error if that is one, and else made of what it holds. -/
theorem Noted.value_map_eq_iff {ε α β : Type} {m : Noted (Except ε α)} {f : α → β}
    {r : Except ε β} :
    (do return (← m).map f : Noted (Except ε β)).value = r ↔
      (∃ e, m.value = .error e ∧ r = .error e) ∨ ∃ a, m.value = .ok a ∧ r = .ok (f a) := by
  rw [Noted.value_bind, Noted.value_pure]
  cases m.value with
  | error own => simp [Except.map, eq_comm]
  | ok a => simp [Except.map, eq_comm]

theorem Noted.value_map_eq_ok_iff {ε α β : Type} {m : Noted (Except ε α)} {f : α → β} {b : β} :
    (do return (← m).map f : Noted (Except ε β)).value = .ok b ↔
      ∃ a, m.value = .ok a ∧ f a = b := by
  rw [value_map_eq_iff]
  simp [eq_comm (a := b)]

theorem Noted.value_map_eq_error_iff {ε α β : Type} {m : Noted (Except ε α)} {f : α → β} {e : ε} :
    (do return (← m).map f : Noted (Except ε β)).value = .error e ↔ m.value = .error e := by
  rw [value_map_eq_iff]
  simp

/-! ### A column -/

/-- The value of a key in an assembled map, without a notice. -/
def assembledCell (table : FieldTable) (isThere : String → Bool) (container : MapField)
    (key : String) : String × Cell :=
  (key,
    if isThere (table.columnForKey container.name key) then
      .column (table.columnForKey container.name key)
    else .null (container.valueType.nullLiteral?.getD SqlType.nullVarchar))

theorem value_synthesizeCell (table : FieldTable) (isThere : String → Bool)
    (container : MapField) (key : String) :
    (synthesizeCell table isThere container key).value =
      assembledCell table isThere container key := by
  rw [synthesizeCell, assembledCell]
  split <;> rfl

theorem value_synthesizeCells (table : FieldTable) (isThere : String → Bool)
    (container : MapField) (keys : List String) :
    (synthesizeCells table isThere container keys).value =
      keys.map (assembledCell table isThere container) := by
  induction keys with
  | nil => rfl
  | cons key keys ih =>
      rw [synthesizeCells, Noted.value_bind, Noted.value_bind, Noted.value_pure,
        value_synthesizeCell, ih, List.map_cons]

theorem value_synthesizeNull_eq_ok_iff {target : Generation} {field requirement : String}
    {type : Option SqlType} {value : ColumnValue} :
    (synthesizeNull target field requirement type).value = .ok value ↔
      ∃ known literal, type = some known ∧ known.nullLiteral? = some literal ∧
        value = .null literal := by
  cases type with
  | none => simp [synthesizeNull]
  | some known =>
      cases hliteral : known.nullLiteral? with
      | none => simp [synthesizeNull, hliteral]
      | some literal => simp [synthesizeNull, hliteral, eq_comm]

namespace Compiler

variable {c : Compiler} {s : ViewState}

/-- The forms of a column of the view, by what it resolves to: the expression itself, the NULL of
its type when something that it requires is missing, or a map that is assembled from its keys. -/
inductive Yields (c : Compiler) (s : ViewState) (column : String) : Resolution → ColumnValue → Prop
  | expr {e : Expr} {requirements : List String}
      (complete : ∀ r ∈ requirements, c.source.hasRequirement r = true) :
      Yields c s column (.derived e requirements) (.expr e)
  | null {e : Expr} {requirements : List String} {type : SqlType} {literal : String}
      (missing : ∃ r ∈ requirements, c.source.hasRequirement r = false)
      (typed : c.targetType? s column = some type)
      (rendered : type.nullLiteral? = some literal) :
      Yields c s column (.derived e requirements) (.null literal)
  | noKeys {container : MapField} (keyless : s.keysOf column = ∅) :
      Yields c s column (.assembly container) (.null SqlType.nullMap)
  | map {container : MapField} (keyed : s.keysOf column ≠ ∅) :
      Yields c s column (.assembly container)
        (.map ((s.keysOf column).toList.map
          (assembledCell c.table c.source.hasRequirement container)))

/-- A column is rendered as a value that its resolution yields. -/
def Renders (c : Compiler) (s : ViewState) (column : String) (value : ColumnValue) : Prop :=
  ∃ resolution, (c.crosswalk.resolve column).value = .ok resolution ∧
    c.Yields s column resolution value

section

variable {column : String} {value : ColumnValue} {e : Expr} {requirements : List String}
  {container : MapField}

theorem yields_iff_of_complete (h : ∀ r ∈ requirements, c.source.hasRequirement r = true) :
    c.Yields s column (.derived e requirements) value ↔ value = .expr e := by
  constructor
  · intro hyields
    cases hyields with
    | expr _ => rfl
    | null missing _ _ =>
        obtain ⟨r, hr, hmissing⟩ := missing
        rw [h r hr] at hmissing
        cases hmissing
  · rintro rfl
    exact .expr h

theorem yields_iff_of_missing (h : ∃ r ∈ requirements, c.source.hasRequirement r = false) :
    c.Yields s column (.derived e requirements) value ↔
      ∃ type literal, c.targetType? s column = some type ∧ type.nullLiteral? = some literal ∧
        value = .null literal := by
  constructor
  · intro hyields
    cases hyields with
    | expr complete =>
        obtain ⟨r, hr, hmissing⟩ := h
        rw [complete r hr] at hmissing
        cases hmissing
    | null _ typed rendered => exact ⟨_, _, typed, rendered, rfl⟩
  · rintro ⟨type, literal, htype, hliteral, rfl⟩
    exact .null h htype hliteral

theorem yields_iff_of_keyless (h : s.keysOf column = ∅) :
    c.Yields s column (.assembly container) value ↔ value = .null SqlType.nullMap := by
  constructor
  · intro hyields
    cases hyields with
    | noKeys _ => rfl
    | map keyed => exact absurd h keyed
  · rintro rfl
    exact .noKeys h

theorem yields_iff_of_keyed (h : s.keysOf column ≠ ∅) :
    c.Yields s column (.assembly container) value ↔
      value = .map ((s.keysOf column).toList.map
        (assembledCell c.table c.source.hasRequirement container)) := by
  constructor
  · intro hyields
    cases hyields with
    | noKeys keyless => exact absurd keyless h
    | map _ => rfl
  · rintro rfl
    exact .map h

theorem value_synthesize_eq_ok_iff {resolution : Resolution} :
    (synthesize c.table c.target c.source.hasRequirement column (c.targetType? s column)
        resolution (s.keysOf column)).value = .ok value ↔ c.Yields s column resolution value := by
  cases resolution with
  | derived e requirements =>
      -- The first requirement that is missing decides; there is none just if all of them exist.
      cases hfind : requirements.find? fun r => !c.source.hasRequirement r with
      | none =>
          rw [yields_iff_of_complete (by simpa using hfind), eq_comm (a := value)]
          simp [synthesize, hfind]
      | some requirement =>
          have hmissing : c.source.hasRequirement requirement = false := by
            simpa using List.find?_some hfind
          rw [yields_iff_of_missing ⟨requirement, List.mem_of_find?_eq_some hfind, hmissing⟩]
          simp only [synthesize, hfind]
          exact value_synthesizeNull_eq_ok_iff
  | assembly container =>
      by_cases hkeys : s.keysOf column = ∅
      · rw [yields_iff_of_keyless hkeys, eq_comm (a := value)]
        simp [synthesize, hkeys]
      · rw [yields_iff_of_keyed hkeys, eq_comm (a := value)]
        simp [synthesize, hkeys, value_synthesizeCells]

end

theorem value_renderColumn_eq_ok_iff {column : String} {item : SelectItem} :
    (c.renderColumn s column).value = .ok item ↔
      item.column = column ∧ c.Renders s column item.value := by
  obtain ⟨own, value⟩ := item
  rw [renderColumn, Noted.value_bind]
  cases hresolve : (c.crosswalk.resolve column).value with
  | error e => simp [Renders, hresolve]
  | ok resolution =>
      simp only [Noted.value_map_eq_ok_iff, value_synthesize_eq_ok_iff, Renders, hresolve,
        Except.ok.injEq, exists_eq_left', SelectItem.mk.injEq]
      constructor
      · rintro ⟨value, hyields, rfl, rfl⟩
        exact ⟨rfl, hyields⟩
      · rintro ⟨rfl, hyields⟩
        exact ⟨value, hyields, rfl, rfl⟩

/-! ### The columns of a state -/

/-- An item of a definition is a rendered column of a state. -/
def IsItem (c : Compiler) (s : ViewState) (column : String) (item : SelectItem) : Prop :=
  item.column = column ∧ c.Renders s column item.value

/-- Each column has its item. -/
theorem exists_item {columns : List String} {items : List SelectItem}
    (h : List.Forall₂ (c.IsItem s) columns items) {column : String} (hcolumn : column ∈ columns) :
    ∃ item ∈ items, c.IsItem s column item := by
  induction h with
  | nil => cases hcolumn
  | @cons first item rest others hfirst _ ih =>
      rcases List.mem_cons.mp hcolumn with rfl | hrest
      · exact ⟨item, List.mem_cons_self, hfirst⟩
      · obtain ⟨other, hother, hrelated⟩ := ih hrest
        exact ⟨other, List.mem_cons_of_mem item hother, hrelated⟩

/-- Each item is that of a column. -/
theorem exists_column {columns : List String} {items : List SelectItem}
    (h : List.Forall₂ (c.IsItem s) columns items) {item : SelectItem} (hitem : item ∈ items) :
    ∃ column ∈ columns, c.IsItem s column item := by
  induction h with
  | nil => cases hitem
  | @cons first own rest others hfirst _ ih =>
      rcases List.mem_cons.mp hitem with rfl | hrest
      · exact ⟨first, List.mem_cons_self, hfirst⟩
      · obtain ⟨column, hcolumn, hrelated⟩ := ih hrest
        exact ⟨column, List.mem_cons_of_mem first hcolumn, hrelated⟩

/-- A column and those after it are rendered just if it is and they are. -/
theorem value_renderColumns_cons_eq_ok_iff {column : String} {columns : List String}
    {items : List SelectItem} :
    (c.renderColumns s (column :: columns)).value = .ok items ↔
      ∃ item rest, (c.renderColumn s column).value = .ok item ∧
        (c.renderColumns s columns).value = .ok rest ∧ item :: rest = items := by
  rw [renderColumns, Noted.value_bind]
  cases (c.renderColumn s column).value with
  | error e => simp
  | ok item =>
      simp only [Noted.value_map_eq_ok_iff, Except.ok.injEq, exists_and_left, exists_eq_left']

theorem value_renderColumns_eq_ok_iff {columns : List String} {items : List SelectItem} :
    (c.renderColumns s columns).value = .ok items ↔ List.Forall₂ (c.IsItem s) columns items := by
  induction columns generalizing items with
  | nil =>
      rw [renderColumns, Noted.value_pure, List.forall₂_nil_left_iff, Except.ok.injEq, eq_comm]
  | cons column columns ih =>
      rw [value_renderColumns_cons_eq_ok_iff, List.forall₂_cons_left_iff]
      simp only [value_renderColumn_eq_ok_iff, ih, IsItem, eq_comm (b := items)]

/-- A definition is the rendering of a state if it holds one item for each column. -/
theorem value_render_eq_ok_iff {d : ViewDefinition} :
    (c.render s).value = .ok d ↔
      d.view = c.viewName ∧ d.source = c.source.name ∧
        List.Forall₂ (c.IsItem s) s.columnNames d.items := by
  obtain ⟨view, items, source⟩ := d
  rw [render, Noted.value_map_eq_ok_iff]
  simp only [value_renderColumns_eq_ok_iff, ViewDefinition.mk.injEq]
  constructor
  · rintro ⟨items, hitems, rfl, rfl, rfl⟩
    exact ⟨rfl, rfl, hitems⟩
  · rintro ⟨rfl, rfl, hitems⟩
    exact ⟨items, hitems, rfl, rfl, rfl⟩

/-- A state is rendered if each of its columns is. -/
theorem exists_render (h : ∀ column ∈ s.columnNames, ∃ value, c.Renders s column value) :
    ∃ d, (c.render s).value = .ok d := by
  have hitems (columns : List String)
      (h : ∀ column ∈ columns, ∃ value, c.Renders s column value) :
      ∃ items, List.Forall₂ (c.IsItem s) columns items := by
    induction columns with
    | nil => exact ⟨[], .nil⟩
    | cons column columns ih =>
        obtain ⟨value, hvalue⟩ := h column List.mem_cons_self
        obtain ⟨items, hrest⟩ := ih fun other hother => h other (List.mem_cons_of_mem column hother)
        exact ⟨⟨column, value⟩ :: items, .cons ⟨rfl, hvalue⟩ hrest⟩
  obtain ⟨items, hitems⟩ := hitems s.columnNames h
  exact ⟨⟨c.viewName, items, c.source.name⟩, value_render_eq_ok_iff.mpr ⟨rfl, rfl, hitems⟩⟩

end Compiler
end CostView
