import CostView.Proofs.LayoutFields
import CostView.Proofs.TwoViews

/-!
# Keys with a column of their own

Out of maps, a key of a map column has a column of its own, named after the map column and the key.
Nothing but that name is kept, so the key has to be found again in it: by the entry of the name, or
by the longest map column that the name starts with.  No map column of the built-in table starts
another one once an underscore is put behind both, so there is only one way to split such a name.

Columns are named in lower case, and the key is found again in lower case.  A key that differs in
case only has the same column, which holds the value of the key in lower case.
-/

namespace CostView

open FieldTable (builtIn)

/-! ### Names of flat columns -/

theorem toList_flatColumn (container key : String) :
    (flatColumn container key).toList = (container.toList ++ ['_']) ++ key.toList := by
  simp [flatColumn]

namespace FieldTable

variable {m own : MapField} {key other : String}

/-- No map column starts another one, with an underscore behind both. -/
theorem eq_of_isPrefix (hm : m ∈ builtInMapFields) (hown : own ∈ builtInMapFields)
    (h : m.name.toList ++ ['_'] <+: own.name.toList ++ ['_']) : m = own := by
  have hall : ∀ a ∈ builtInMapFields, ∀ b ∈ builtInMapFields,
      a.name.toList ++ ['_'] <+: b.name.toList ++ ['_'] → a = b := by
    decide +kernel
  exact hall m hm own hown h

/-- A flat column belongs to one map column and to one key of it. -/
theorem flatColumn_inj (hm : m ∈ builtInMapFields) (hown : own ∈ builtInMapFields)
    (h : flatColumn m.name key = flatColumn own.name other) : m = own ∧ key = other := by
  rw [← String.toList_inj, toList_flatColumn, toList_flatColumn] at h
  -- Of two beginnings of one name one starts the other.
  obtain rfl : m = own := by
    rcases List.prefix_or_prefix_of_prefix (List.prefix_append _ key.toList)
      (h ▸ List.prefix_append _ other.toList) with hstarts | hstarts
    · exact eq_of_isPrefix hm hown hstarts
    · exact (eq_of_isPrefix hown hm hstarts).symm
  exact ⟨rfl, String.toList_inj.mp (List.append_cancel_left h)⟩

/-- So the name of a flat column is split into the map column and the key that it is made of. -/
theorem splitColumn?_flatColumn (hm : m ∈ builtInMapFields) (hkey : key ≠ "") :
    builtIn.splitColumn? (flatColumn m.name key) = some (m, key) := by
  obtain ⟨⟨found, rest⟩, hsplit⟩ := exists_splitColumn?_flatColumn (t := builtIn) hm hkey
  obtain ⟨hfound, hflat⟩ := of_splitColumn? hsplit
  obtain ⟨rfl, rfl⟩ := flatColumn_inj hfound hm hflat
  exact hsplit

/-- A flat column is no map column. -/
theorem isMapField_flatColumn (hm : m ∈ builtInMapFields) (key : String) :
    builtIn.isMapField (flatColumn m.name key) = false := by
  rw [← Bool.not_eq_true, isMapField_iff]
  rintro ⟨own, hown⟩
  obtain ⟨hmem, hname⟩ := of_mapField? hown
  have htext : own.name.toList = (m.name.toList ++ ['_']) ++ key.toList := by
    rw [hname, toList_flatColumn]
  obtain rfl : m = own := by
    refine eq_of_isPrefix hm hmem ?_
    rw [htext, List.append_assoc (m.name.toList ++ ['_'])]
    exact List.prefix_append _ _
  have hlength := congrArg List.length htext
  simp at hlength

end FieldTable

namespace Compiler

variable {c : Compiler} {container key : String}

/-- A key that is asked for is exposed as its flat column, in lower case. -/
theorem OutOfMaps.exposureOf_key (h : c.OutOfMaps) (container key : String) :
    c.crosswalk.exposureOf (.mapKey container key) =
      .ofColumn (Text.lowered (flatColumn container key)) := by
  rw [Crosswalk.exposureOf, crosswalk, h.target, h.table, FieldTable.columnForKey_builtIn]

/-- The column of a key that is not empty is that key of the map column, unless an entry gives the
column to something else. -/
theorem OutOfMaps.resolve_flatColumn (h : c.OutOfMaps)
    (hmap : builtIn.isMapField container = true) (hkey : key ≠ "")
    (hlisted : ∀ e ∈ builtIn.entries, e.column = flatColumn container key →
      e.counterpart = .subscript (.column container) key) :
    (c.crosswalk.resolve (flatColumn container key)).value =
      .ok (.derived (.subscript (.column container) key) [subscriptText container key]) := by
  obtain ⟨m, hm⟩ := FieldTable.isMapField_iff.mp hmap
  obtain ⟨hmem, rfl⟩ := FieldTable.of_mapField? hm
  refine h.resolve_key (FieldTable.isMapField_flatColumn hmem key) ?_
  cases hentry : builtIn.entry? (flatColumn m.name key) with
  | none => exact Or.inr ⟨rfl, m, FieldTable.splitColumn?_flatColumn hmem hkey, rfl⟩
  | some e =>
      obtain ⟨-, hcolumn⟩ := FieldTable.regular_of_entry? hentry
      exact Or.inl ⟨e, rfl, hlisted e (List.mem_of_find?_eq_some hentry) hcolumn⟩

/-- A column that is a key of a map column has the value of the source at that key. -/
theorem valueOf_key {α : Type} {s : ViewState} {row : Row α} {column : String}
    (hcontainer : Column.needsQuoting container = false)
    (hresolve : (c.crosswalk.resolve column).value =
      .ok (.derived (.subscript (.column container) key) [subscriptText container key])) :
    c.valueOf s row column = (c.source.valueOf row container).at key := by
  rw [valueOf_of_resolve hresolve, denote, List.all_cons, List.all_nil, Bool.and_true,
    SourceTable.hasRequirement_subscriptText hcontainer, SourceTable.valueOf]
  split <;> rfl

/-- Out of maps, a key that is asked for has a column that is found to be the key in lower case of
the same map column, and it has the value of the source at that key. -/
theorem OutOfMaps.key_of_exposureOf (h : c.OutOfMaps)
    (hmap : builtIn.isMapField container = true) (hkey : key ≠ "")
    (hlisted : ∀ e ∈ builtIn.entries, e.column = Text.lowered (flatColumn container key) →
      e.counterpart = .subscript (.column container) (Text.lowered key)) :
    Field.parse builtIn (subscriptText container key) = .ok (.mapKey container key) ∧
    c.crosswalk.exposureOf (.mapKey container key) =
      .ofColumn (Text.lowered (flatColumn container key)) ∧
    (c.crosswalk.resolve (Text.lowered (flatColumn container key))).value =
      .ok (.derived (.subscript (.column container) (Text.lowered key))
        [subscriptText container (Text.lowered key)]) ∧
    ∀ {α : Type} (s : ViewState) (row : Row α),
      c.valueOf s row (Text.lowered (flatColumn container key)) =
        (c.source.valueOf row container).at (Text.lowered key) := by
  have hplain := FieldTable.plain_of_isMapField hmap
  have hlowered : Text.lowered (flatColumn container key) =
      flatColumn container (Text.lowered key) := by
    obtain ⟨m, hm⟩ := FieldTable.isMapField_iff.mp hmap
    obtain ⟨hmem, rfl⟩ := FieldTable.of_mapField? hm
    rw [← FieldTable.lowered_columnForKey hmem, FieldTable.columnForKey_builtIn]
  have hexposure := h.exposureOf_key container key
  have hnonempty : Text.lowered key ≠ "" := by
    rw [Ne, ← String.toList_eq_nil_iff] at hkey ⊢
    simpa [Text.lower] using hkey
  rw [hlowered] at hlisted hexposure ⊢
  have hresolve := h.resolve_flatColumn hmap hnonempty hlisted
  exact ⟨Field.parse_subscriptText key hplain hmap, hexposure, hresolve,
    fun s row => valueOf_key hplain hresolve⟩

theorem OutOfMaps.key_of_exposureOf_at_tag :
    let c : Compiler :=
      ⟨builtIn, .ofColumns "billing.cur2" .two [⟨"resource_tags", "map(varchar, varchar)"⟩], .one⟩
    c.crosswalk.exposureOf (.mapKey "resource_tags" "user_cost center") =
      .ofColumn "resource_tags_user_cost center" ∧
    (c.crosswalk.resolve "resource_tags_user_cost center").value =
      .ok (.derived (.subscript (.column "resource_tags") "user_cost center")
        ["resource_tags['user_cost center']"]) := by
  intro c
  have h : c.OutOfMaps := ⟨rfl, rfl, rfl⟩
  have hname : Text.lowered (flatColumn "resource_tags" "user_cost center") =
      "resource_tags_user_cost center" := by
    decide +kernel
  have hmap : builtIn.isMapField "resource_tags" = true := by decide +kernel
  have hkey : "user_cost center" ≠ "" := by decide
  have hunlisted : ∀ e ∈ builtIn.entries, e.column ≠ "resource_tags_user_cost center" := by
    decide +kernel
  obtain ⟨-, hexposure, hresolve, -⟩ :=
    h.key_of_exposureOf hmap hkey fun e he heq => absurd (heq.trans hname) (hunlisted e he)
  rw [hname] at hexposure hresolve
  exact ⟨hexposure, hresolve⟩

/-- The column of a key with a letter in upper case is not that key, and the value is not found. -/
theorem mixedCase_key_not_found :
    let c : Compiler :=
      ⟨builtIn, .ofColumns "billing.cur2" .two [⟨"resource_tags", "map(varchar, varchar)"⟩], .one⟩
    let column := (c.crosswalk.exposureOf (.mapKey "resource_tags" "user_Team")).column
    let row : Row String := fun _ =>
      .map fun key => if key = "user_Team" then some (.scalar "platform") else none
    c.OutOfMaps ∧ builtIn.isMapField "resource_tags" = true ∧
      (∀ e ∈ builtIn.entries, e.column ≠ Text.lowered (flatColumn "resource_tags" "user_Team")) ∧
      (c.crosswalk.resolve column).value =
        .ok (.derived (.subscript (.column "resource_tags") "user_team")
          ["resource_tags['user_team']"]) ∧
      (c.crosswalk.resolve column).value ≠
        .ok (.derived (.subscript (.column "resource_tags") "user_Team")
          ["resource_tags['user_Team']"]) ∧
      (c.source.valueOf row "resource_tags").at "user_Team" = .scalar "platform" ∧
      c.valueOf .empty row column = .null := by
  intro c column row
  have h : c.OutOfMaps := ⟨rfl, rfl, rfl⟩
  have hmap : builtIn.isMapField "resource_tags" = true := by decide +kernel
  have hname : Text.lowered (flatColumn "resource_tags" "user_Team") =
      flatColumn "resource_tags" "user_team" := by
    decide +kernel
  have hunlisted : ∀ e ∈ builtIn.entries,
      e.column ≠ flatColumn "resource_tags" "user_team" := by
    decide +kernel
  have hcolumn : column = flatColumn "resource_tags" "user_team" :=
    (congrArg Exposure.column (h.exposureOf_key "resource_tags" "user_Team")).trans hname
  have hresolve : (c.crosswalk.resolve column).value =
      .ok (.derived (.subscript (.column "resource_tags") "user_team")
        ["resource_tags['user_team']"]) := by
    rw [hcolumn]
    exact h.resolve_flatColumn hmap (by decide) fun e he heq => absurd heq (hunlisted e he)
  have hthere : c.source.hasColumn "resource_tags" = true := by decide +kernel
  refine ⟨h, hmap, hname ▸ hunlisted, hresolve, ?_, ?_, ?_⟩
  · rw [hresolve]
    decide
  · rw [SourceTable.valueOf, if_pos hthere]
    rfl
  · rw [valueOf_key (FieldTable.plain_of_isMapField hmap) hresolve, SourceTable.valueOf,
      if_pos hthere]
    rfl

end Compiler
end CostView
