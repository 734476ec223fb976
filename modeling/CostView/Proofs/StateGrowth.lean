import CostView.View.State
import Mathlib.Tactic

/-!
# How a state grows

Each operation on a state is described by what can be observed of the result: the exposed columns,
their known types and the keys of each column.  From this follows what exposing adds to a state.
The statement is exact only where every key stands under an exposed column, since a key that was
recorded without its column comes into view together with that column.

What can be observed also determines the state, so it matters neither in which order something is
exposed nor how often.
-/

namespace CostView
namespace ViewState

variable {s : ViewState} {column other key : String} {type : Option SqlType}

/-- Every recorded key stands under an exposed column. -/
def WellKeyed (s : ViewState) : Prop :=
  ∀ column key, key ∈ s.keysOf column → s.hasColumn column = true

@[simp] theorem hasColumn_empty : empty.hasColumn column = false := by
  simp [empty, hasColumn]

@[simp] theorem columnType?_empty : empty.columnType? column = none := by
  simp [empty, columnType?]

@[simp] theorem keysOf_empty : empty.keysOf column = ∅ := by
  simp [empty, keysOf]

theorem mem_columnNames : column ∈ s.columnNames ↔ s.hasColumn column = true := by
  rw [columnNames, Std.ExtTreeMap.mem_keys, hasColumn, Std.ExtTreeMap.mem_iff_contains]

/-- Only exposed columns have a known type. -/
theorem hasColumn_of_columnType?_ne_none (h : s.columnType? column ≠ none) :
    s.hasColumn column = true := by
  rw [hasColumn, Std.ExtTreeMap.contains_eq_isSome_getElem?, Option.isSome_iff_ne_none]
  intro hslot
  rw [columnType?, hslot] at h
  exact h rfl

/-! ### Columns -/

theorem getElem?_insertColumn :
    (s.insertColumn column type).columns[other]? =
      if column = other then some (type <|> s.columnType? column) else s.columns[other]? := by
  rw [insertColumn, Std.ExtTreeMap.getElem?_alter]
  simp only [Std.LawfulEqCmp.compare_eq_iff_eq]
  rfl

@[simp] theorem hasColumn_insertColumn :
    (s.insertColumn column type).hasColumn other = true ↔
      column = other ∨ s.hasColumn other = true := by
  rw [hasColumn, hasColumn, Std.ExtTreeMap.contains_eq_isSome_getElem?,
    Std.ExtTreeMap.contains_eq_isSome_getElem?, getElem?_insertColumn]
  by_cases h : column = other <;> simp [h]

theorem columnType?_insertColumn :
    (s.insertColumn column type).columnType? other =
      if column = other then (type <|> s.columnType? column) else s.columnType? other := by
  rw [columnType?, getElem?_insertColumn]
  by_cases h : column = other
  · rw [if_pos h, if_pos h]
    rfl
  · rw [if_neg h, if_neg h]
    rfl

@[simp] theorem keysOf_insertColumn :
    (s.insertColumn column type).keysOf other = s.keysOf other := rfl

/-! ### Keys -/

@[simp] theorem hasColumn_insertKeys {keys : List String} :
    (s.insertKeys column keys).hasColumn other = s.hasColumn other := rfl

@[simp] theorem columnType?_insertKeys {keys : List String} :
    (s.insertKeys column keys).columnType? other = s.columnType? other := rfl

@[simp] theorem mem_keysOf_insertKeys {keys : List String} :
    key ∈ (s.insertKeys column keys).keysOf other ↔
      (column = other ∧ key ∈ keys) ∨ key ∈ s.keysOf other := by
  simp only [keysOf, insertKeys, Std.ExtTreeMap.getElem?_alter,
    Std.LawfulEqCmp.compare_eq_iff_eq]
  by_cases h : column = other
  · subst h
    simp [Std.ExtTreeSet.mem_insertMany_list, or_comm]
  · simp [h]

/-! ### Exposing -/

theorem contains_iff {x : Exposure} :
    s.contains x = true ↔
      s.hasColumn x.column = true ∧ ∀ key, x.key = some key → key ∈ s.keysOf x.column := by
  obtain ⟨column, _ | key⟩ := x
  · simp [contains]
  · simp [contains]

theorem covers_iff {xs : List Exposure} :
    s.covers xs = true ↔ ∀ x ∈ xs, s.contains x = true := by
  simp [covers]

@[simp] theorem hasColumn_expose {x : Exposure} :
    (s.expose x).hasColumn column = true ↔ x.column = column ∨ s.hasColumn column = true := by
  obtain ⟨c, _ | key⟩ := x <;> simp [expose]

@[simp] theorem columnType?_expose {x : Exposure} :
    (s.expose x).columnType? column = s.columnType? column := by
  have hsame : (s.insertColumn x.column none).columnType? column = s.columnType? column := by
    rw [columnType?_insertColumn]
    split
    · next h => subst h; rfl
    · rfl
  obtain ⟨c, _ | key⟩ := x
  · exact hsame
  · simpa [expose] using hsame

@[simp] theorem mem_keysOf_expose {x : Exposure} :
    key ∈ (s.expose x).keysOf column ↔
      (x.column = column ∧ x.key = some key) ∨ key ∈ s.keysOf column := by
  obtain ⟨c, _ | k⟩ := x
  · simp [expose]
  · simp [expose, eq_comm]

theorem WellKeyed.expose (h : s.WellKeyed) (x : Exposure) : (s.expose x).WellKeyed := by
  intro column key hkey
  rw [hasColumn_expose]
  rcases mem_keysOf_expose.mp hkey with ⟨hcolumn, -⟩ | hold
  · exact Or.inl hcolumn
  · exact Or.inr (h column key hold)

/-- Exposing adds the exposure and its bare column, and nothing else. -/
theorem WellKeyed.contains_expose (h : s.WellKeyed) {x y : Exposure} :
    (s.expose y).contains x = true ↔
      s.contains x = true ∨ x = y ∨ x = .ofColumn y.column := by
  obtain ⟨column, _ | key⟩ := x
  · obtain ⟨c, k⟩ := y
    simp only [contains_iff, hasColumn_expose, Exposure.ofColumn, Exposure.mk.injEq,
      reduceCtorEq, false_implies, implies_true, and_true]
    constructor
    · rintro (rfl | hold)
      · exact Or.inr (Or.inr rfl)
      · exact Or.inl hold
    · rintro (hold | ⟨rfl, -⟩ | rfl)
      · exact Or.inr hold
      · exact Or.inl rfl
      · exact Or.inl rfl
  · obtain ⟨c, k⟩ := y
    simp only [contains_iff, hasColumn_expose, mem_keysOf_expose, Exposure.ofColumn,
      Exposure.mk.injEq, Option.some.injEq, forall_eq', reduceCtorEq, and_false, or_false]
    constructor
    · rintro ⟨-, ⟨rfl, rfl⟩ | hold⟩
      · exact Or.inr ⟨rfl, rfl⟩
      · exact Or.inl ⟨h column key hold, hold⟩
    · rintro (⟨hcolumn, hold⟩ | ⟨rfl, rfl⟩)
      · exact ⟨Or.inr hcolumn, Or.inr hold⟩
      · exact ⟨Or.inl rfl, Or.inl ⟨rfl, rfl⟩⟩

/-! ### Extending -/

variable {xs : List Exposure}

@[simp] theorem extend_nil : s.extend [] = s := rfl

@[simp] theorem extend_cons {x : Exposure} : s.extend (x :: xs) = (s.expose x).extend xs := rfl

theorem WellKeyed.extend (h : s.WellKeyed) : (s.extend xs).WellKeyed := by
  induction xs generalizing s with
  | nil => exact h
  | cons x xs ih => exact ih (h.expose x)

@[simp] theorem hasColumn_extend :
    (s.extend xs).hasColumn column = true ↔
      s.hasColumn column = true ∨ ∃ x ∈ xs, x.column = column := by
  induction xs generalizing s with
  | nil => simp
  | cons x xs ih =>
      rw [extend_cons, ih, hasColumn_expose]
      simp only [List.mem_cons, exists_eq_or_imp]
      tauto

@[simp] theorem columnType?_extend :
    (s.extend xs).columnType? column = s.columnType? column := by
  induction xs generalizing s with
  | nil => rfl
  | cons x xs ih =>
      rw [extend_cons, ih, columnType?_expose]

@[simp] theorem mem_keysOf_extend :
    key ∈ (s.extend xs).keysOf column ↔
      key ∈ s.keysOf column ∨ .ofKey column key ∈ xs := by
  induction xs generalizing s with
  | nil => simp
  | cons x xs ih =>
      rw [extend_cons, ih, mem_keysOf_expose, List.mem_cons]
      obtain ⟨c, k⟩ := x
      simp only [Exposure.ofKey, Exposure.mk.injEq]
      tauto

/-- Extending adds the exposures and their bare columns, and nothing else. -/
theorem WellKeyed.contains_extend (h : s.WellKeyed) {x : Exposure} :
    (s.extend xs).contains x = true ↔
      s.contains x = true ∨ ∃ y ∈ xs, x = y ∨ x = .ofColumn y.column := by
  induction xs generalizing s with
  | nil => simp
  | cons y ys ih =>
      rw [extend_cons, ih (h.expose y), h.contains_expose]
      simp only [List.mem_cons, exists_eq_or_imp]
      rw [or_assoc]

/-! ### States of which the same can be observed -/

variable {t : ViewState} {ys : List Exposure}

/-- Whether keys of a column are recorded, be it none. -/
def isKeyed (s : ViewState) (column : String) : Bool :=
  s.mapKeys.contains column

theorem getElem?_columns :
    s.columns[column]? =
      if s.hasColumn column = true then some (s.columnType? column) else none := by
  rw [columnType?, hasColumn, Std.ExtTreeMap.contains_eq_isSome_getElem?]
  cases s.columns[column]? <;> rfl

theorem getElem?_mapKeys :
    s.mapKeys[column]? = if s.isKeyed column = true then some (s.keysOf column) else none := by
  rw [keysOf, isKeyed, Std.ExtTreeMap.contains_eq_isSome_getElem?]
  cases s.mapKeys[column]? <;> rfl

/-- States are equal if the same can be observed of them. -/
theorem ext_of_observed (hcolumns : ∀ column, s.hasColumn column = t.hasColumn column)
    (htypes : ∀ column, s.columnType? column = t.columnType? column)
    (hkeyed : ∀ column, s.isKeyed column = t.isKeyed column)
    (hkeys : ∀ column, s.keysOf column = t.keysOf column) : s = t := by
  have hsame : s.columns = t.columns := by
    refine Std.ExtTreeMap.ext_getElem? fun column => ?_
    rw [getElem?_columns, getElem?_columns, hcolumns, htypes]
  have hsameKeys : s.mapKeys = t.mapKeys := by
    refine Std.ExtTreeMap.ext_getElem? fun column => ?_
    rw [getElem?_mapKeys, getElem?_mapKeys, hkeyed, hkeys]
  obtain ⟨columns, mapKeys⟩ := s
  obtain ⟨_, _⟩ := t
  exact congr (congrArg ViewState.mk hsame) hsameKeys

theorem isKeyed_of_mem_keysOf (h : key ∈ s.keysOf column) : s.isKeyed column = true := by
  rw [isKeyed, Std.ExtTreeMap.contains_eq_isSome_getElem?]
  cases hslot : s.mapKeys[column]? with
  | none => simp [keysOf, hslot] at h
  | some keys => rfl

@[simp] theorem isKeyed_insertKeys {keys : List String} :
    (s.insertKeys column keys).isKeyed other = true ↔
      column = other ∨ s.isKeyed other = true := by
  rw [isKeyed, isKeyed, insertKeys, Std.ExtTreeMap.contains_eq_isSome_getElem?,
    Std.ExtTreeMap.contains_eq_isSome_getElem?, Std.ExtTreeMap.getElem?_alter]
  simp only [Std.LawfulEqCmp.compare_eq_iff_eq]
  by_cases h : column = other <;> simp [h]

@[simp] theorem isKeyed_insertColumn :
    (s.insertColumn column type).isKeyed other = s.isKeyed other := rfl

@[simp] theorem isKeyed_expose {x : Exposure} :
    (s.expose x).isKeyed column = true ↔
      (x.column = column ∧ x.key.isSome) ∨ s.isKeyed column = true := by
  obtain ⟨c, _ | k⟩ := x <;> simp [expose]

@[simp] theorem isKeyed_extend :
    (s.extend xs).isKeyed column = true ↔
      s.isKeyed column = true ∨ ∃ key, .ofKey column key ∈ xs := by
  induction xs generalizing s with
  | nil => simp
  | cons x xs ih =>
      rw [extend_cons, ih, isKeyed_expose]
      obtain ⟨c, _ | k⟩ := x
      · simp [Exposure.ofKey]
      · simp only [Exposure.ofKey, List.mem_cons, Exposure.mk.injEq, Option.some.injEq,
          Option.isSome_some, and_true, exists_or, eq_comm (a := column)]
        simp only [exists_and_left, exists_eq, and_true]
        tauto

theorem extend_append : s.extend (xs ++ ys) = (s.extend xs).extend ys :=
  List.foldl_append

/-- In which order exposures are added, and how often, does not matter. -/
theorem extend_congr (h : ∀ x, x ∈ xs ↔ x ∈ ys) : s.extend xs = s.extend ys := by
  refine ext_of_observed (fun column => ?_) (fun column => ?_) (fun column => ?_) fun column => ?_
  · rw [Bool.eq_iff_iff, hasColumn_extend, hasColumn_extend]
    simp only [h]
  · rw [columnType?_extend, columnType?_extend]
  · rw [Bool.eq_iff_iff, isKeyed_extend, isKeyed_extend]
    simp only [h]
  · refine Std.ExtTreeSet.ext_mem fun key => ?_
    rw [mem_keysOf_extend, mem_keysOf_extend, h]

/-- Exposures that are contained already add nothing. -/
theorem extend_of_contains (h : ∀ x ∈ xs, s.contains x = true) : s.extend xs = s := by
  refine ext_of_observed (fun column => ?_) (fun column => ?_) (fun column => ?_) fun column => ?_
  · rw [Bool.eq_iff_iff, hasColumn_extend, or_iff_left_iff_imp]
    rintro ⟨x, hx, rfl⟩
    exact (contains_iff.mp (h x hx)).1
  · rw [columnType?_extend]
  · rw [Bool.eq_iff_iff, isKeyed_extend, or_iff_left_iff_imp]
    rintro ⟨key, hkey⟩
    exact isKeyed_of_mem_keysOf ((contains_iff.mp (h _ hkey)).2 key rfl)
  · refine Std.ExtTreeSet.ext_mem fun key => ?_
    rw [mem_keysOf_extend, or_iff_left_iff_imp]
    intro hkey
    exact (contains_iff.mp (h _ hkey)).2 key rfl

/-- The names of the columns are determined by which columns there are. -/
theorem columnNames_congr (h : ∀ column, s.hasColumn column = t.hasColumn column) :
    s.columnNames = t.columnNames := by
  have hordered (u : ViewState) : u.columnNames.Pairwise fun a b => compare a b = .lt :=
    Std.ExtTreeMap.ordered_keys
  have hirrefl : Std.Irrefl fun a b : String => compare a b = .lt :=
    ⟨fun a h => by simp at h⟩
  have hantisymm : Std.Antisymm fun a b : String => compare a b = .lt :=
    ⟨fun a b hab hba => by
      rw [Std.OrientedOrd.eq_swap, hab] at hba
      cases hba⟩
  exact (hordered s).eq_of_mem_iff (hordered t) fun column => by
    rw [mem_columnNames, mem_columnNames, h]

end ViewState
end CostView
