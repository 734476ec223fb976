import CostView.Proofs.MapText
import CostView.Proofs.Rendering
import CostView.Proofs.Requirements

/-!
# What an assembled map looks like

A map is assembled as an array of keys and an array of values, and both are concatenations of
literal arrays that an engine accepts.  The keys stand in ascending order, each of them once, and
the values stand where their keys do: the two arrays have the same elements in number, and they are
cut at the same places.  A value is the column that the key is held in, where the source has one,
and otherwise the NULL of the values of the map.

Which column that is depends on the text of the key.  A key with a closing bracket could be taken
for that of another column, and nothing is said about such keys here.
-/

namespace CostView

open FieldTable (builtIn)

/-- Literal arrays of the given elements, concatenated. -/
def concatenatedArrays (separator : String) (parts : List (List String)) : String :=
  joined " || " (parts.map fun part => "ARRAY[" ++ joined separator part ++ "]")

/-- A list in as few parts of at most `n` elements as there can be, in order. -/
structure IsCut {α : Type} (n : Nat) (xs : List α) (parts : List (List α)) : Prop where
  whole : parts.flatten = xs
  bounded : ∀ part ∈ parts, part.length ≤ n
  count : parts.length = xs.length ⌈/⌉ n

theorem isCut_chunks {α : Type} (xs : List α) : IsCut 254 xs (chunks chunkSize xs) :=
  ⟨flatten_chunks chunkSize_ne_zero, fun _ => length_le_of_mem_chunks,
    length_chunks chunkSize_ne_zero⟩

/-- The text of the value of a key, over a source with the given columns: the column that holds the
key if there is one, without regard to ASCII case, and a NULL if there is none. -/
def valueText (columns : List ColumnInfo) (null container key : String) : String :=
  if ∃ c ∈ columns, Text.lowered c.name = Text.lowered (builtIn.columnForKey container key) then
    Column.reference (builtIn.columnForKey container key)
  else null

theorem text_assembledCell {m : MapField} (hm : m ∈ builtIn.mapFields) {null : String}
    (hnull : m.valueType.nullLiteral? = some null) {key : String} (hkey : ']' ∉ key.toList)
    (tableName : String) (g : Generation) (columns : List ColumnInfo) :
    (assembledCell builtIn (SourceTable.ofColumns tableName g columns).hasRequirement m
      key).2.text = valueText columns null m.name key := by
  rw [assembledCell, SourceTable.hasRequirement_columnForKey hm hkey, valueText, hnull]
  simp only [SourceTable.hasColumn_ofColumns_iff]
  split <;> rfl

/-- The keys of a set in order. -/
theorem pairwise_toList (keys : Std.ExtTreeSet String) : keys.toList.Pairwise (· < ·) := by
  have hordered : keys.toList.Pairwise fun a b => compare a b = .lt :=
    Std.ExtTreeSet.ordered_toList
  exact hordered.imp compareOfLessAndEq_eq_lt.mp

/-- A map that is assembled from keys without brackets is written as two concatenations of literal
arrays that are cut alike: the keys in ascending order, each once, and the values in that order. -/
theorem text_of_assembly {m : MapField} (hm : m ∈ builtIn.mapFields)
    {keys : Std.ExtTreeSet String} (hkeys : keys ≠ ∅)
    (hbracket : ∀ key : String, key ∈ keys → ']' ∉ key.toList)
    (tableName : String) (g : Generation) (columns : List ColumnInfo) (target : Generation)
    (field : String) (type : Option SqlType) :
    ∃ (value : ColumnValue) (null : String) (ascending : List String)
        (keyParts valueParts : List (List String)),
      (synthesize builtIn target (SourceTable.ofColumns tableName g columns).hasRequirement field
        type (.assembly m) keys).value = .ok value ∧
      value.text = "MAP(" ++ concatenatedArrays "," keyParts ++ ", " ++
        concatenatedArrays ", " valueParts ++ ")" ∧
      m.valueType.nullLiteral? = some null ∧
      ascending.Pairwise (· < ·) ∧ (∀ key, key ∈ ascending ↔ key ∈ keys) ∧
      ascending.length = keys.size ∧
      IsCut 254 (ascending.map quoteText) keyParts ∧
      IsCut 254 (ascending.map (valueText columns null m.name)) valueParts ∧
      keyParts.map List.length = valueParts.map List.length := by
  obtain ⟨null, hnull⟩ :=
    SqlType.exists_nullLiteral?_of_mem_basic (FieldTable.mapField_of_mem hm).2.2
  have hvalues : keys.toList.map (fun key => (assembledCell builtIn
        (SourceTable.ofColumns tableName g columns).hasRequirement m key).2.text) =
      keys.toList.map (valueText columns null m.name) :=
    List.map_congr_left fun key hkey => text_assembledCell hm hnull
      (hbracket key (Std.ExtTreeSet.mem_toList.mp hkey)) tableName g columns
  refine ⟨.map (keys.toList.map (assembledCell builtIn
      (SourceTable.ofColumns tableName g columns).hasRequirement m)), null, keys.toList,
    chunks chunkSize (keys.toList.map quoteText),
    chunks chunkSize (keys.toList.map (valueText columns null m.name)), ?_, ?_, hnull,
    pairwise_toList keys, fun key => Std.ExtTreeSet.mem_toList, Std.ExtTreeSet.length_toList,
    isCut_chunks _, isCut_chunks _, ?_⟩
  · have hnonempty : keys.isEmpty = false := by
      simpa using hkeys
    rw [synthesize, hnonempty]
    simp [value_synthesizeCells]
  · rw [ColumnValue.text, mapText, List.map_map, List.map_map, ← hvalues]
    rfl
  · rw [chunks_map, chunks_map, List.map_map, List.map_map]
    simp

/-- Of at most `n` elements there is one part. -/
theorem IsCut.eq_singleton {α : Type} {n : Nat} {xs : List α} {parts : List (List α)}
    (h : IsCut n xs parts) (hcount : xs.length ⌈/⌉ n = 1) : parts = [xs] := by
  obtain ⟨part, rfl⟩ := List.length_eq_one_iff.mp (h.count.trans hcount)
  rw [← h.whole, List.flatten_singleton]

theorem text_of_assembly_at_two_tags :
    let source : SourceTable :=
      .ofColumns "billing.cur" .one [⟨"Resource_Tags_user_team", "varchar"⟩]
    let keys : Std.ExtTreeSet String := .ofList ["user_team", "user_cost"]
    ∃ value, (synthesize builtIn .two source.hasRequirement "resource_tags" none
        (.assembly ⟨"resource_tags", .varchar⟩) keys).value = .ok value ∧
      value.text = "MAP(ARRAY['user_cost','user_team'], " ++
        "ARRAY[cast(null as varchar), resource_tags_user_team])" := by
  intro source keys
  have hkeys : keys ≠ ∅ := by decide +kernel
  have hbracket : ∀ key : String, key ∈ keys → ']' ∉ key.toList := by
    intro key hkey
    rw [Std.ExtTreeSet.mem_ofList, List.contains_iff_mem] at hkey
    revert key
    decide +kernel
  obtain ⟨value, null, ascending, keyParts, valueParts, hvalue, htext, hnull, hordered, hmem, -,
      hkeyCut, hvalueCut, -⟩ :=
    text_of_assembly (m := ⟨"resource_tags", .varchar⟩) (by decide) hkeys hbracket
      "billing.cur" .one [⟨"Resource_Tags_user_team", "varchar"⟩] .two "resource_tags" none
  refine ⟨value, hvalue, ?_⟩
  obtain rfl : null = SqlType.nullVarchar := (Option.some.inj hnull).symm
  obtain rfl : ascending = ["user_cost", "user_team"] := by
    refine hordered.eq_of_mem_iff (by decide +kernel) fun key => ?_
    rw [hmem, Std.ExtTreeSet.mem_ofList, List.contains_iff_mem]
    simp [or_comm]
  rw [htext, hkeyCut.eq_singleton rfl, hvalueCut.eq_singleton rfl]
  simp only [List.map_cons, List.map_nil, valueText, FieldTable.columnForKey_builtIn]
  decide +kernel

end CostView
