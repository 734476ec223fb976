import CostView.FieldTable.BuiltIn
import CostView.Proofs.PlainName

/-!
# What the built-in table is like

Every entry of the built-in table either keeps the name of its column or turns the column
`container_key` into a key of a map column, all of these names are plain and all types are basic.
So the column that holds a key is always the one named after the container and the key, and every
declared type is read back from its own text.
-/

namespace CostView

namespace SqlType

/-- The types that are no maps and have a NULL. -/
def basic : List SqlType := [.varchar, .double, .timestamp]

end SqlType

namespace FieldTable

/-- The two kinds of entries: a column that keeps its name, and a column that became a key. -/
inductive Regular : FieldEntry → Prop
  | same {name : String} {type : SqlType} {isDefault : Bool}
      (plain : Column.needsQuoting name = false) (basic : type ∈ SqlType.basic) :
      Regular (same name type isDefault)
  | keyed {container key : String} {type : SqlType} {isDefault : Bool}
      (known : builtIn.isMapField container = true) (plainKey : Column.needsQuoting key = false)
      (basic : type ∈ SqlType.basic) : Regular (keyed container key type isDefault)

theorem plain_ofList {first : Char} {rest : List Char}
    (h : (!first.isDigit && (first :: rest).all Column.isPlainChar) = true) :
    Column.needsQuoting (String.ofList (first :: rest)) = false := by
  rw [Column.needsQuoting, String.toList_ofList]
  simpa using h

theorem regular_of_mem : ∀ e ∈ builtIn.entries, Regular e := by
  have hdiscount : builtIn.isMapField "discount" = true := by decide +kernel
  have hproduct : builtIn.isMapField "product" = true := by decide +kernel
  simp only [builtIn, billEntries, discountEntries, identityEntries, lineItemEntries,
    pricingEntries, productEntries, reservationEntries, savingsPlanEntries, splitLineItemEntries,
    List.forall_mem_append, List.forall_mem_cons]
  -- The shape of an entry is clear from its definition, and its names are checked one by one.
  repeat' apply And.intro
  all_goals first
    | exact .same (plain_ofList rfl) (by decide)
    | exact .keyed hdiscount (plain_ofList rfl) (by decide)
    | exact .keyed hproduct (plain_ofList rfl) (by decide)
    | exact List.forall_mem_nil _

/-! ### Entries -/

variable {name container key : String} {e : FieldEntry}

theorem column?_expr (name : String) : (Column.expr name).column? = some name := by
  rw [Column.expr]
  split <;> rfl

theorem subscript?_expr (name : String) : (Column.expr name).subscript? = none := by
  rw [Column.expr]
  split <;> rfl

/-- The entry of a column of generation one. -/
theorem regular_of_entry? (h : builtIn.entry? name = some e) : Regular e ∧ e.column = name := by
  have hcolumn : e.column = name := by
    simpa using List.find?_some h
  exact ⟨regular_of_mem e (List.mem_of_find?_eq_some h), hcolumn⟩

/-- The entry of a column of generation two keeps the name of the column. -/
theorem eq_same_of_entryOfColumn? (h : builtIn.entryOfColumn? name = some e) :
    Column.needsQuoting name = false ∧ ∃ type ∈ SqlType.basic, ∃ isDefault,
      e = same name type isDefault := by
  have hcolumn : e.counterpart.column? = some name := by
    simpa using List.find?_some h
  have hregular := regular_of_mem e (List.mem_of_find?_eq_some h)
  cases hregular with
  | @same own type isDefault plain basic =>
      obtain rfl : own = name := by
        rw [same, column?_expr] at hcolumn
        exact Option.some.inj hcolumn
      exact ⟨plain, type, basic, isDefault, rfl⟩
  | keyed _ _ _ =>
      rw [keyed] at hcolumn
      cases hcolumn

/-- The column that holds a key is named after the container and the key, listed or not. -/
theorem columnForKey_builtIn (container key : String) :
    builtIn.columnForKey container key = flatColumn container key := by
  rw [columnForKey]
  cases hentry : builtIn.entryOfKey? container key with
  | none => rfl
  | some e =>
      have hsubscript : e.counterpart.subscript? = some (container, key) := by
        simpa using List.find?_some hentry
      have hregular := regular_of_mem e (List.mem_of_find?_eq_some hentry)
      cases hregular with
      | same _ _ =>
          rw [same, subscript?_expr] at hsubscript
          cases hsubscript
      | keyed _ _ _ =>
          rw [keyed, Expr.subscript?, Option.some.injEq, Prod.mk.injEq] at hsubscript
          obtain ⟨rfl, rfl⟩ := hsubscript
          rfl

/-! ### Map columns -/

variable {m : MapField}

/-- The names of map columns are plain and not sensitive, and the types of their values basic. -/
theorem mapField_of_mem (h : m ∈ builtInMapFields) :
    Column.needsQuoting m.name = false ∧ Column.isSensitive m.name = false ∧
      m.valueType ∈ SqlType.basic := by
  revert m
  decide +kernel

theorem isMapField_iff {t : FieldTable} :
    t.isMapField name = true ↔ ∃ m, t.mapField? name = some m := by
  rw [isMapField, Option.isSome_iff_exists]

theorem isMapField_of_mem {t : FieldTable} {m : MapField} (h : m ∈ t.mapFields) :
    t.isMapField m.name = true :=
  isMapField_iff_exists_mem.mpr ⟨m, h, rfl⟩

theorem plain_of_isMapField (h : builtIn.isMapField name = true) :
    Column.needsQuoting name = false := by
  obtain ⟨m, hm⟩ := isMapField_iff.mp h
  obtain ⟨hmem, rfl⟩ := of_mapField? hm
  exact (mapField_of_mem hmem).1

/-! ### Names that hold a key -/

theorem mem_of_longest? {candidates : List (MapField × String)} {p : MapField × String}
    (h : longest? candidates = some p) : p ∈ candidates := by
  induction candidates with
  | nil => cases h
  | cons first rest ih =>
      rw [longest?] at h
      split at h
      · next d hd =>
          split at h
          · exact List.mem_cons_of_mem first (ih (hd.trans h))
          · exact Option.some.inj h ▸ List.mem_cons_self
      · exact Option.some.inj h ▸ List.mem_cons_self

theorem flatColumn_of_keyAfter? (h : keyAfter? container name = some key) :
    flatColumn container key = name := by
  rw [keyAfter?, Text.dropLeading?] at h
  split at h
  · next c rest hdrop =>
      split at hdrop
      · next hprefix =>
          obtain ⟨tail, htail⟩ := List.isPrefixOf_iff_prefix.mp hprefix
          rw [← htail, List.drop_left] at hdrop
          obtain rfl := Option.some.inj hdrop
          obtain rfl := Option.some.inj h
          rw [← String.toList_inj, ← htail]
          simp [flatColumn]
      · cases hdrop
  · cases h

/-- A name that is split is that of the flat column of its parts. -/
theorem of_splitColumn? {t : FieldTable} (h : t.splitColumn? name = some (m, key)) :
    m ∈ t.mapFields ∧ flatColumn m.name key = name := by
  obtain ⟨own, hown, hpair⟩ := List.mem_filterMap.mp (mem_of_longest? h)
  obtain ⟨ownKey, hkey, hsame⟩ := Option.map_eq_some_iff.mp hpair
  rw [Prod.mk.injEq] at hsame
  obtain ⟨rfl, rfl⟩ := hsame
  exact ⟨hown, flatColumn_of_keyAfter? hkey⟩

/-- The name of a flat column is plain if its parts are. -/
theorem needsQuoting_flatColumn {container key : String}
    (hcontainer : Column.needsQuoting container = false)
    (hkey : Column.needsQuoting key = false) :
    Column.needsQuoting (flatColumn container key) = false := by
  obtain ⟨c, s, hname, hc, hdigit⟩ := Column.exists_of_plain hcontainer
  have htext : (flatColumn container key).toList = c :: (s ++ '_' :: key.toList) := by
    simp [flatColumn, hname]
  have hplain : ∀ a ∈ c :: (s ++ '_' :: key.toList), Column.isPlainChar a = true := by
    intro a ha
    rw [← List.cons_append, List.mem_append] at ha
    rcases ha with ha | ha
    · exact Column.isPlainChar_of_mem hcontainer (hname ▸ ha)
    · rcases List.mem_cons.mp ha with rfl | ha
      · rfl
      · exact Column.isPlainChar_of_mem hkey ha
  rw [Column.needsQuoting, htext]
  simp only [hdigit, Bool.false_or, Bool.not_eq_false', List.all_eq_true]
  exact hplain

theorem notMem_flatColumn (hcontainer : ']' ∉ container.toList) (hkey : ']' ∉ key.toList) :
    ']' ∉ (flatColumn container key).toList := by
  simp [flatColumn, hcontainer, hkey]

end FieldTable

/-! ### Types -/

namespace SqlType

/-- The types that the built-in table declares for columns of generation two. -/
inductive Declared : SqlType → Prop
  | flat {type : SqlType} (h : type ∈ SqlType.basic) : Declared type
  | map {value : SqlType} (h : value ∈ SqlType.basic) : Declared (.map value)

variable {type : SqlType} {literal : String}

/-- A declared type is read back from its text, which is never that of an unknown type. -/
theorem Declared.parse_text (h : Declared type) :
    parse type.text = type ∧ Text.lower type.text.toList ≠ "unknown".toList := by
  have hbasic : ∀ t ∈ basic, parse t.text = t ∧ Text.lower t.text.toList ≠ "unknown".toList := by
    decide +kernel
  have hmap : ∀ t ∈ basic, parse (SqlType.map t).text = .map t ∧
      Text.lower (SqlType.map t).text.toList ≠ "unknown".toList := by
    decide +kernel
  cases h with
  | flat h => exact hbasic _ h
  | map h => exact hmap _ h

theorem isMap_of_mem_basic (h : type ∈ basic) : type.isMap = false := by
  revert type
  decide

/-- The basic types have a NULL. -/
theorem exists_nullLiteral?_of_mem_basic (h : type ∈ basic) :
    ∃ literal, type.nullLiteral? = some literal := by
  simp only [basic, List.mem_cons, List.not_mem_nil, or_false] at h
  rcases h with rfl | rfl | rfl <;> exact ⟨_, rfl⟩

/-- What is known of a type once it was registered: the type that its text names, unless that is the
text of an unknown type. -/
def reread? (type : SqlType) : Option SqlType :=
  if Text.lower type.text.toList = "unknown".toList then none else some (parse type.text)

theorem Declared.reread? (h : Declared type) : type.reread? = some type := by
  obtain ⟨hparse, hknown⟩ := h.parse_text
  rw [SqlType.reread?, if_neg hknown, hparse]

/-- The text of a map names a map. -/
theorem isMap_parse_text (value : SqlType) : (parse (SqlType.map value).text).isMap = true := by
  have htext : (SqlType.map value).text.toList =
      'm' :: 'a' :: 'p' :: '(' :: ("varchar, ".toList ++ value.text.toList ++ [')']) := by
    simp [text]
  -- Neither end of the text is blank.
  have htrim : Text.trim (SqlType.map value).text.toList = (SqlType.map value).text.toList := by
    have hfirst : Text.isBlank 'm' = false := rfl
    have hlast : Text.isBlank ')' = false := rfl
    rw [htext]
    simp [Text.trim, Text.trimBoth, hfirst, hlast]
  have hbase : baseName (Text.lower (Text.trim (SqlType.map value).text.toList)) = "map" := by
    rw [htrim, htext]
    rfl
  rw [parse, ofChars]
  simp only [hbase]
  cases mapValue? (Text.lower (Text.trim (SqlType.map value).text.toList)) <;> rfl

/-- A type that has a NULL is registered under a type with the same NULL. -/
theorem exists_reread?_of_nullLiteral? (h : type.nullLiteral? = some literal) :
    ∃ own, type.reread? = some own ∧ own.nullLiteral? = some literal := by
  have hflat : ∀ t ∈ [varchar, double, timestamp], t.reread? = some t := by decide +kernel
  cases type with
  | varchar => exact ⟨_, hflat _ (by decide), h⟩
  | double => exact ⟨_, hflat _ (by decide), h⟩
  | timestamp => exact ⟨_, hflat _ (by decide), h⟩
  | map value =>
      have hknown : Text.lower (SqlType.map value).text.toList ≠ "unknown".toList := by
        simp [text, Text.lower]
      refine ⟨_, if_neg hknown, ?_⟩
      have hmap := isMap_parse_text value
      cases hparse : parse (SqlType.map value).text with
      | map own => exact h
      | varchar | double | timestamp | other =>
          rw [hparse] at hmap
          cases hmap
  | other text => cases h

end SqlType
end CostView
