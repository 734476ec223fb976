import CostView.Proofs.BuiltInTable
import CostView.Proofs.Rendering
import CostView.Proofs.Resolutions

/-!
# Columns whose type is declared

A column of the target layout may have nothing in the source that it could be derived from.  It is
exposed nevertheless, as the NULL of its type.  Three places of the program have to agree for that:
the column has to resolve, the table has to declare its type, and that type has to have a NULL.

In any table the columns whose type is declared are resolved, whichever the generation of the
source.  The built-in table declares a type with a NULL for every listed column and for every name
that is made of a map column, an underscore and something more.
-/

namespace CostView

/-- What the table declares a type for is resolved, whatever the generation of the source. -/
theorem Crosswalk.exists_resolve_of_declared {t : Crosswalk} {column : String} {type : SqlType}
    (h : t.table.declaredType? t.target column = some type) :
    ∃ resolution, (t.resolve column).value = .ok resolution := by
  rcases t.kinds with hsame | ⟨hsource, htarget⟩ | ⟨hsource, htarget⟩
  · exact ⟨_, value_resolve_same hsame⟩
  · rw [htarget, FieldTable.declaredType?] at h
    cases hmap : t.table.mapField? column with
    | some m =>
        exact ⟨_, (value_resolve_toMap_eq_ok_iff hsource htarget).mpr (Or.inl ⟨m, hmap, rfl⟩)⟩
    | none =>
        rw [hmap] at h
        obtain ⟨e, he, -⟩ := Option.map_eq_some_iff.mp h
        exact ⟨_, (value_resolve_toMap_eq_ok_iff hsource htarget).mpr
          (Or.inr ⟨hmap, e, he, rfl⟩)⟩
  · rw [htarget, FieldTable.declaredType?] at h
    cases hmap : t.table.isMapField column with
    | true =>
        exact ⟨_, (value_resolve_toFlat_eq_ok_iff hsource htarget).mpr (Or.inl ⟨hmap, rfl⟩)⟩
    | false =>
        cases hentry : t.table.entry? column with
        | some e =>
            exact ⟨_, (value_resolve_toFlat_eq_ok_iff hsource htarget).mpr
              (Or.inr ⟨hmap, Or.inl ⟨e, hentry, rfl⟩⟩)⟩
        | none =>
            rw [hentry] at h
            obtain ⟨⟨m, key⟩, hsplit, -⟩ := Option.map_eq_some_iff.mp h
            exact ⟨_, (value_resolve_toFlat_eq_ok_iff hsource htarget).mpr
              (Or.inr ⟨hmap, Or.inr ⟨hentry, m, key, hsplit, rfl⟩⟩)⟩

/-- The table declares a type for a column of a layout, and that type has a NULL. -/
def FieldTable.HasNull (t : FieldTable) (g : Generation) (column : String) : Prop :=
  ∃ type literal, t.declaredType? g column = some type ∧ type.nullLiteral? = some literal

namespace Compiler

variable {c : Compiler} {s : ViewState} {column : String}

/-- A column whose type is declared and has a NULL is rendered in every state. -/
theorem exists_renders_of_hasNull (h : c.table.HasNull c.target column) :
    ∃ value, c.Renders s column value := by
  obtain ⟨type, literal, hdeclared, hliteral⟩ := h
  obtain ⟨resolution, hresolve⟩ := Crosswalk.exists_resolve_of_declared (t := c.crosswalk) hdeclared
  cases resolution with
  | assembly m =>
      by_cases hkeys : s.keysOf column = ∅
      · exact ⟨_, _, hresolve, .noKeys hkeys⟩
      · exact ⟨_, _, hresolve, .map hkeys⟩
  | derived e requirements =>
      by_cases hthere : ∀ r ∈ requirements, c.source.hasRequirement r = true
      · exact ⟨_, _, hresolve, .expr hthere⟩
      · -- Then it is the NULL of its type: what is declared goes before what is recorded.
        simp only [not_forall, Bool.not_eq_true] at hthere
        obtain ⟨r, hr, hmissing⟩ := hthere
        have htype : c.targetType? s column = some type := by
          rw [targetType?, hdeclared]
          rfl
        exact ⟨_, _, hresolve, .null ⟨r, hr, hmissing⟩ htype hliteral⟩

end Compiler

/-! ### The built-in table -/

namespace FieldTable

variable {m : MapField} {suffix name : String}

theorem exists_longest? {candidates : List (MapField × String)} (h : candidates ≠ []) :
    ∃ p, longest? candidates = some p := by
  cases candidates with
  | nil => exact absurd rfl h
  | cons first rest =>
      rw [longest?]
      split
      · split
        · exact ⟨_, rfl⟩
        · exact ⟨_, rfl⟩
      · exact ⟨_, rfl⟩

theorem keyAfter?_flatColumn (container : String) (h : suffix ≠ "") :
    keyAfter? container (flatColumn container suffix) = some suffix := by
  have htext : (flatColumn container suffix).toList =
      (container.toList ++ ['_']) ++ suffix.toList := by
    simp [flatColumn]
  have hprefix : (container.toList ++ ['_']).isPrefixOf (flatColumn container suffix).toList :=
    List.isPrefixOf_iff_prefix.mpr ⟨suffix.toList, htext.symm⟩
  rw [keyAfter?, Text.dropLeading?, if_pos hprefix, htext, List.drop_left]
  cases hsuffix : suffix.toList with
  | nil => exact absurd (String.toList_eq_nil_iff.mp hsuffix) h
  | cons first rest =>
      change some (String.ofList (first :: rest)) = some suffix
      rw [← hsuffix, String.ofList_toList]

/-- A name that is made of a map column, an underscore and something more is split, if perhaps
elsewhere. -/
theorem exists_splitColumn?_flatColumn {t : FieldTable} (hm : m ∈ t.mapFields) (h : suffix ≠ "") :
    ∃ p, t.splitColumn? (flatColumn m.name suffix) = some p := by
  refine exists_longest? (List.ne_nil_of_mem (a := (m, suffix)) ?_)
  refine List.mem_filterMap.mpr ⟨m, hm, ?_⟩
  rw [keyAfter?_flatColumn m.name h, Option.map_some]

theorem exists_entry?_of_mem {t : FieldTable} {e : FieldEntry} (he : e ∈ t.entries) :
    ∃ own, t.entry? e.column = some own := by
  rw [← Option.isSome_iff_exists, entry?, List.find?_isSome]
  exact ⟨e, he, by simp⟩

/-- A listed column of generation one is declared with a type that has a NULL. -/
theorem hasNull_of_entry? {e : FieldEntry} (h : builtIn.entry? name = some e) :
    builtIn.HasNull .one name := by
  obtain ⟨hregular, -⟩ := regular_of_entry? h
  have hbasic : e.type ∈ SqlType.basic := by
    cases hregular with
    | same _ basic => exact basic
    | keyed _ _ basic => exact basic
  obtain ⟨literal, hliteral⟩ := SqlType.exists_nullLiteral?_of_mem_basic hbasic
  exact ⟨e.type, literal, by rw [declaredType?, h], hliteral⟩

/-- So is a column that is only named after a map column. -/
theorem hasNull_flatColumn (hm : m ∈ builtIn.mapFields) (h : suffix ≠ "") :
    builtIn.HasNull .one (flatColumn m.name suffix) := by
  cases hentry : builtIn.entry? (flatColumn m.name suffix) with
  | some e => exact hasNull_of_entry? hentry
  | none =>
      obtain ⟨⟨own, key⟩, hsplit⟩ := exists_splitColumn?_flatColumn hm h
      obtain ⟨literal, hliteral⟩ :=
        SqlType.exists_nullLiteral?_of_mem_basic (mapField_of_mem (of_splitColumn? hsplit).1).2.2
      refine ⟨own.valueType, literal, ?_, hliteral⟩
      rw [declaredType?, hentry, hsplit]
      rfl

/-- A map column is declared with a map type in generation two. -/
theorem hasNull_container (hm : m ∈ builtIn.mapFields) : builtIn.HasNull .two m.name := by
  obtain ⟨own, hown⟩ := isMapField_iff.mp (isMapField_of_mem hm)
  exact ⟨own.type, SqlType.nullMap, by rw [declaredType?, hown], rfl⟩

/-- And the counterpart of a listed column with the type of that column. -/
theorem hasNull_counterpart {e : FieldEntry} (he : e ∈ builtIn.entries)
    (hcolumn : e.counterpart.column? = some name) : builtIn.HasNull .two name := by
  cases hmap : builtIn.mapField? name with
  | some own => exact ⟨own.type, SqlType.nullMap, by rw [declaredType?, hmap], rfl⟩
  | none =>
      obtain ⟨own, hown⟩ : ∃ own, builtIn.entryOfColumn? name = some own := by
        rw [← Option.isSome_iff_exists, entryOfColumn?, List.find?_isSome]
        exact ⟨e, he, by simp [hcolumn]⟩
      obtain ⟨-, type, hbasic, isDefault, rfl⟩ := eq_same_of_entryOfColumn? hown
      obtain ⟨literal, hliteral⟩ := SqlType.exists_nullLiteral?_of_mem_basic hbasic
      refine ⟨type, literal, ?_, hliteral⟩
      rw [declaredType?, hmap, hown]
      rfl

end FieldTable
end CostView
