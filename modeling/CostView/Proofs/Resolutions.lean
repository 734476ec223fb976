import CostView.Resolution
import Mathlib.Tactic

/-!
# What resolving yields

The value of a resolution, without the notices that are given on the way, for each of the three
kinds of crosswalk: within a generation, into maps and out of maps.
-/

namespace CostView
namespace Crosswalk

variable {t : Crosswalk} {field : String} {r : Resolution} {e : UnknownField}

/-- Within a generation every field is the source column of the same name. -/
theorem value_resolve_same (h : t.source = t.target) :
    (t.resolve field).value = .ok (passThrough field) := by
  obtain ⟨table, source, target⟩ := t
  obtain rfl : source = target := h
  cases source <;> rfl

theorem resolve_toMap (hsource : t.source = .one) (htarget : t.target = .two) :
    t.resolve field = t.resolveToMap field := by
  rw [resolve, hsource, htarget]

theorem resolve_toFlat (hsource : t.source = .two) (htarget : t.target = .one) :
    t.resolve field = t.resolveToFlat field := by
  rw [resolve, hsource, htarget]

/-- Into maps, a map column is assembled, and any other field is the column of its entry. -/
theorem value_resolve_toMap_eq_ok_iff (hsource : t.source = .one) (htarget : t.target = .two) :
    (t.resolve field).value = .ok r ↔
      (∃ m, t.table.mapField? field = some m ∧ r = .assembly m) ∨
      (t.table.mapField? field = none ∧ ∃ e, t.table.entryOfColumn? field = some e ∧
        r = passThrough e.column) := by
  rw [resolve_toMap hsource htarget, resolveToMap]
  cases t.table.mapField? field with
  | some m => simp [eq_comm]
  | none =>
      cases t.table.entryOfColumn? field with
      | some e => simp [eq_comm]
      | none => simp [unknown]

theorem value_resolve_toMap_eq_error_iff (hsource : t.source = .one) (htarget : t.target = .two) :
    (t.resolve field).value = .error e ↔
      e = ⟨field, .two, .noFlatColumn⟩ ∧ t.table.mapField? field = none ∧
        t.table.entryOfColumn? field = none := by
  rw [resolve_toMap hsource htarget, resolveToMap]
  cases t.table.mapField? field with
  | some m => simp
  | none =>
      cases t.table.entryOfColumn? field with
      | some own => simp
      | none => simp [unknown, htarget, eq_comm]

/-- Out of maps, a map column is passed through, a listed field is its counterpart, and a field that
is named after a map column is a key of it. -/
theorem value_resolve_toFlat_eq_ok_iff (hsource : t.source = .two) (htarget : t.target = .one) :
    (t.resolve field).value = .ok r ↔
      (t.table.isMapField field = true ∧ r = .derived (.column field) []) ∨
      (t.table.isMapField field = false ∧
        ((∃ e, t.table.entry? field = some e ∧
            r = .derived e.counterpart e.counterpart.requirements) ∨
          (t.table.entry? field = none ∧ ∃ m key, t.table.splitColumn? field = some (m, key) ∧
            r = .derived (.subscript (.column m.name) key) [subscriptText m.name key]))) := by
  rw [resolve_toFlat hsource htarget, resolveToFlat]
  cases t.table.isMapField field with
  | true => simp [eq_comm]
  | false =>
      cases t.table.entry? field with
      | some e => simp [eq_comm]
      | none =>
          rcases t.table.splitColumn? field with _ | ⟨m, key⟩
          · simp [unknown]
          · simp [eq_comm]

theorem value_resolve_toFlat_eq_error_iff (hsource : t.source = .two) (htarget : t.target = .one) :
    (t.resolve field).value = .error e ↔
      e = ⟨field, .one, .noExpression⟩ ∧ t.table.isMapField field = false ∧
        t.table.entry? field = none ∧ t.table.splitColumn? field = none := by
  rw [resolve_toFlat hsource htarget, resolveToFlat]
  cases t.table.isMapField field with
  | true => simp
  | false =>
      cases t.table.entry? field with
      | some own => simp
      | none =>
          cases t.table.splitColumn? field with
          | some p => simp
          | none => simp [unknown, htarget, eq_comm]

/-- The three kinds of crosswalk. -/
theorem kinds (t : Crosswalk) : t.source = t.target ∨ (t.source = .one ∧ t.target = .two) ∨
    (t.source = .two ∧ t.target = .one) := by
  obtain ⟨table, source, target⟩ := t
  cases source <;> cases target <;> simp

/-- Only into maps is anything assembled, and that are the map columns. -/
theorem of_value_resolve_eq_assembly {m : MapField}
    (h : (t.resolve field).value = .ok (.assembly m)) :
    t.source = .one ∧ t.target = .two ∧ t.table.mapField? field = some m := by
  rcases t.kinds with hsame | ⟨hsource, htarget⟩ | ⟨hsource, htarget⟩
  · rw [value_resolve_same hsame] at h
    cases h
  · rw [value_resolve_toMap_eq_ok_iff hsource htarget] at h
    rcases h with ⟨own, hown, heq⟩ | ⟨-, e, -, heq⟩
    · cases heq
      exact ⟨hsource, htarget, hown⟩
    · cases heq
  · rw [value_resolve_toFlat_eq_ok_iff hsource htarget] at h
    rcases h with ⟨-, heq⟩ | ⟨-, ⟨e, -, heq⟩ | ⟨-, own, key, -, heq⟩⟩ <;> cases heq

end Crosswalk
end CostView
