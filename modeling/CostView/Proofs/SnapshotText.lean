import CostView.Proofs.BuiltInTable
import CostView.Proofs.JsonText
import CostView.Proofs.TypeText
import CostView.View.Json
import Mathlib.Data.List.DropRight

/-!
# Snapshots that are written down

A snapshot is kept between two compilations as the text of a JSON value.  What is read back has the
same columns and the same keys, but each type is the one that the text of the type names.  For a
type that was read from a text that is the type itself, or one map for another: the text of a map
does not say all that the text it was read from said, and all maps have the same NULL.
-/

namespace CostView

/-! ### Types -/

namespace SqlType

variable {a b type : SqlType}

/-- Types that no view tells apart: they are equal, or both are maps. -/
def Alike (a b : SqlType) : Prop :=
  a = b ∨ a.isMap = true ∧ b.isMap = true

theorem Alike.refl (a : SqlType) : a.Alike a := Or.inl rfl

theorem Alike.symm (h : a.Alike b) : b.Alike a := by
  rcases h with rfl | ⟨ha, hb⟩
  · exact .refl a
  · exact Or.inr ⟨hb, ha⟩

theorem Alike.trans {d : SqlType} (hab : a.Alike b) (hbd : b.Alike d) : a.Alike d := by
  rcases hab with rfl | ⟨ha, hb⟩
  · exact hbd
  · rcases hbd with rfl | ⟨-, hd⟩
    · exact Or.inr ⟨ha, hb⟩
    · exact Or.inr ⟨ha, hd⟩

theorem nullLiteral?_of_isMap (h : type.isMap = true) : type.nullLiteral? = some nullMap := by
  cases type with
  | map value => rfl
  | varchar | double | timestamp | other => cases h

/-- A type that is alike to the one that its text names. -/
def Stable (type : SqlType) : Prop :=
  (parse type.text).Alike type

/-- Every type that was read from a text is stable. -/
theorem stable_parse (raw : String) : (parse raw).Stable := by
  have hflat : ∀ t ∈ [varchar, double, timestamp], parse t.text = t := by decide +kernel
  rw [Stable]
  cases hparse : parse raw with
  | varchar => exact Or.inl (hflat _ (by decide))
  | double => exact Or.inl (hflat _ (by decide))
  | timestamp => exact Or.inl (hflat _ (by decide))
  | map value => exact Or.inr ⟨isMap_parse_text value, rfl⟩
  | other text =>
      obtain rfl := eq_of_ofChars_eq_other hparse
      left
      rw [SqlType.text, parse, String.toList_ofList, ofChars_trim]
      exact hparse

end SqlType

/-! ### Values of maps -/

/-- A map is rebuilt from its entries. -/
theorem ofList_toList_map {α : Type} (m : Std.ExtTreeMap String α) :
    Std.ExtTreeMap.ofList m.toList = m := by
  refine Std.ExtTreeMap.ext_getElem? fun name => ?_
  cases hslot : m[name]? with
  | some value =>
      exact Std.ExtTreeMap.getElem?_ofList_of_mem (Std.ReflCmp.compare_self)
        Std.ExtTreeMap.distinct_keys_toList (Std.ExtTreeMap.mem_toList_iff_getElem?_eq_some.mpr hslot)
  | none =>
      refine Std.ExtTreeMap.getElem?_ofList_of_contains_eq_false ?_
      rw [← Bool.not_eq_true, List.contains_iff_mem, Std.ExtTreeMap.map_fst_toList_eq_keys,
        Std.ExtTreeMap.mem_keys, Std.ExtTreeMap.mem_iff_isSome_getElem?, hslot]
      simp

/-- The values of a map are those of the entries that it is built from. -/
theorem exists_mem_of_getElem?_ofList {α : Type} {entries : List (String × α)} {name : String}
    {value : α} (h : (Std.ExtTreeMap.ofList entries)[name]? = some value) :
    ∃ e ∈ entries, e.2 = value := by
  have hfold (entries : List (String × α)) (m : Std.ExtTreeMap String α)
      (hm : (entries.foldl (fun m e => m.insert e.1 e.2) m)[name]? = some value) :
      (∃ e ∈ entries, e.2 = value) ∨ m[name]? = some value := by
    induction entries generalizing m with
    | nil => exact Or.inr hm
    | cons e entries ih =>
        rcases ih (m.insert e.1 e.2) hm with ⟨other, hother, hvalue⟩ | hslot
        · exact Or.inl ⟨other, List.mem_cons_of_mem e hother, hvalue⟩
        · rw [Std.ExtTreeMap.getElem?_insert] at hslot
          split at hslot
          · exact Or.inl ⟨e, List.mem_cons_self, Option.some.inj hslot⟩
          · exact Or.inr hslot
  rw [Std.ExtTreeMap.ofList_eq_foldl] at h
  rcases hfold entries ∅ h with hmem | hempty
  · exact hmem
  · simp at hempty

/-- A set is rebuilt from its elements. -/
theorem ofList_toList_set (keys : Std.ExtTreeSet String) :
    Std.ExtTreeSet.ofList keys.toList = keys := by
  refine Std.ExtTreeSet.ext_mem fun key => ?_
  rw [Std.ExtTreeSet.mem_ofList, List.contains_iff_mem, Std.ExtTreeSet.mem_toList]

/-- Reading what was written element by element. -/
theorem mapM_map_eq_some {α β γ : Type} {write : α → β} {read? : β → Option γ} (again : α → γ)
    (xs : List α) (h : ∀ x, read? (write x) = some (again x)) :
    (xs.map write).mapM read? = some (xs.map again) := by
  induction xs with
  | nil => rfl
  | cons x xs ih =>
      rw [List.map_cons, List.mapM_cons, h, ih]
      rfl

namespace ViewState

/-- The state with each type replaced by the one that its text names. -/
def reparsed (s : ViewState) : ViewState :=
  ⟨s.columns.map fun _ type => type.map fun t => SqlType.parse t.text, s.mapKeys⟩

theorem numberless_toJson (s : ViewState) : s.toJson.Numberless := by
  refine .object fun m hm => ?_
  rcases List.mem_pair.mp hm with rfl | rfl
  · refine .object fun m hm => ?_
    obtain ⟨⟨name, type⟩, -, rfl⟩ := List.mem_map.mp hm
    cases type with
    | none => exact .null
    | some type => exact .string type.text
  · refine .object fun m hm => ?_
    obtain ⟨⟨name, keys⟩, -, rfl⟩ := List.mem_map.mp hm
    refine .array fun item hitem => ?_
    obtain ⟨key, -, rfl⟩ := List.mem_map.mp hitem
    exact .string key

/-- A state is read back with the types that their texts name, and else as it was written. -/
theorem ofJson?_toJson (s : ViewState) : ofJson? s.toJson = some s.reparsed := by
  have hcolumns : columnsOfJson? (.object (s.columns.toList.map fun e =>
      (e.1, e.2.elim .null fun type => .string type.text))) = some s.reparsed.columns := by
    rw [columnsOfJson?, JsonValue.members?, Option.bind_eq_bind, Option.bind_some,
      mapM_map_eq_some fun e => (e.1, e.2.map fun t => SqlType.parse t.text)]
    · rw [← ofList_toList_map s.reparsed.columns, reparsed, Std.ExtTreeMap.toList_map]
      rfl
    · rintro ⟨name, _ | type⟩ <;> rfl
  have hkeys : mapKeysOfJson? (.object (s.mapKeys.toList.map fun e =>
      (e.1, .array (e.2.toList.map .string)))) = some s.mapKeys := by
    rw [mapKeysOfJson?, JsonValue.members?, Option.bind_eq_bind, Option.bind_some,
      mapM_map_eq_some id]
    · rw [List.map_id]
      exact congrArg some (ofList_toList_map s.mapKeys)
    · rintro ⟨name, keys⟩
      have htexts : (keys.toList.map JsonValue.string).mapM JsonValue.string? =
          some (keys.toList.map id) := mapM_map_eq_some id keys.toList fun _ => rfl
      simp only [JsonValue.items?, Option.bind_eq_bind, Option.bind_some, htexts, List.map_id,
        ofList_toList_set]
      rfl
  have hstate : (⟨s.reparsed.columns, s.mapKeys⟩ : ViewState) = s.reparsed := rfl
  rw [toJson, ofJson?]
  simp [JsonValue.member?, hcolumns, hkeys, hstate]

end ViewState

namespace Snapshot

/-- The snapshot with each type replaced by the one that its text names. -/
def reparsed : Snapshot → Snapshot
  | .fresh => .fresh
  | .compiled s => .compiled s.reparsed

/-- The text that a snapshot is kept as. -/
def written (snapshot : Snapshot) : String :=
  snapshot.toJson.pretty

/-- The snapshot that a text is read as. -/
def read? (text : String) : Option Snapshot :=
  (JsonValue.read? text).bind ofJson?

theorem numberless_toJson (snapshot : Snapshot) : snapshot.toJson.Numberless := by
  cases snapshot with
  | fresh => exact .string "Fresh"
  | compiled s =>
      refine .object fun m hm => ?_
      obtain rfl := List.mem_singleton.mp hm
      exact s.numberless_toJson

/-- A snapshot is read back with the types that their texts name, and else as it was written. -/
theorem read?_written (snapshot : Snapshot) : read? snapshot.written = some snapshot.reparsed := by
  rw [read?, written, JsonValue.read?_pretty snapshot.numberless_toJson, Option.bind_some]
  cases snapshot with
  | fresh => rfl
  | compiled s =>
      rw [toJson, ofJson?, ViewState.ofJson?_toJson]
      rfl

end Snapshot
end CostView
