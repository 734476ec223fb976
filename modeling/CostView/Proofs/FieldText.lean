import CostView.Proofs.ColumnText
import CostView.Resolution

/-!
# Requested fields as text

A request names a field by a text, and a field has a text of its own.  The text of a key names that
key.  A plain field is written as its bare name, whatever that is, so its text names it only if the
name is one of a column; any other name is refused, or it is read as something else.  A plain field
may even be named like the text of a key, and then both have the same text.

The columns that requests expose are all names in lower case, since any name can be asked for
between quotes.
-/

namespace CostView

open FieldTable (builtIn)

/-! ### What a text names -/

namespace Field

variable {table : FieldTable} {text name container key : String} {f g : Field}

/-- The fields that texts name: columns in lower case, and keys of map columns. -/
theorem of_parse (h : parse table text = .ok f) :
    (∃ name, f = .plain (Text.lowered name)) ∨
      ∃ container key, f = .mapKey container key ∧ table.isMapField container = true := by
  unfold parse at h
  split at h
  · cases h
  · split at h
    · next name hname =>
        cases h
        exact Or.inl ⟨name, rfl⟩
    · next container key _ _ =>
        dsimp only at h
        split at h
        · next hmap =>
            cases h
            exact Or.inr ⟨_, _, rfl, hmap⟩
        · cases h
    · split at h
      · cases h
      · cases h

theorem isMapField_of_parse (h : parse table text = .ok (.mapKey container key)) :
    table.isMapField container = true := by
  rcases of_parse h with ⟨name, hplain⟩ | ⟨own, other, hsame, hmap⟩
  · cases hplain
  · cases hsame
    exact hmap

/-- A plain field is named by a text that is read as its column, in any case. -/
theorem parse_eq_plain_iff : parse table text = .ok (.plain name) ↔
    ∃ own, (∃ e, Expr.parse text = .ok e ∧ e.column? = some own) ∧ Text.lowered own = name := by
  constructor
  · intro h
    rw [parse, readIdentifier] at h
    cases hread : Expr.parse text with
    | error e =>
        rw [hread] at h
        cases h
    | ok e =>
        rw [hread] at h
        dsimp only at h
        split at h
        · next own hown =>
            cases h
            exact ⟨own, ⟨e, rfl, hown⟩, rfl⟩
        · split at h <;> cases h
        · split at h <;> cases h
  · rintro ⟨own, ⟨e, hread, hown⟩, rfl⟩
    rw [parse, readIdentifier, hread]
    simp only [hown]

theorem parse_plain (t : FieldTable) (h : Column.needsQuoting name = false) :
    parse t name = .ok (.plain name) :=
  parse_eq_plain_iff.mpr ⟨name, ⟨_, Expr.parse_plain h, rfl⟩, Column.lowered_eq_self h⟩

/-- A subscript names a key, if what it is a subscript of is a map column in lower case. -/
theorem parse_of_subscript? {e : Expr} (hread : Expr.parse text = .ok e)
    (hkey : e.subscript? = some (container, key)) : parse table text =
      if table.isMapField (Text.lowered container) then .ok (.mapKey (Text.lowered container) key)
      else .error ⟨text, .notMap (Text.lowered container)⟩ := by
  rw [parse, readIdentifier, hread]
  simp only [Expr.column?_eq_none_of_subscript? hkey, hkey]

theorem parse_subscriptText (key : String) (h : Column.needsQuoting container = false)
    (hmap : table.isMapField container = true) :
    parse table (subscriptText container key) = .ok (.mapKey container key) := by
  rw [parse_of_subscript? (Expr.parse_subscriptText h key) rfl, Column.lowered_eq_self h,
    if_pos hmap]

/-! ### What the text of a field names -/

/-- A field that its own text can name: a key, or a column with a bare name. -/
def StandsBare : Field → Prop
  | .plain name => Expr.IsColumnName name.toList
  | .mapKey _ _ => True

/-- A plain field that is named like the text of a key. -/
def Mimics (f g : Field) : Prop :=
  ∃ container key, g = .mapKey container key ∧ f = .plain g.text

/-- A name names the plain field of that very name just if it is a bare name in lower case. -/
theorem parse_eq_plain_self_iff : parse table name = .ok (.plain name) ↔
    Text.lowered name = name ∧ Expr.IsColumnName name.toList := by
  rw [parse_eq_plain_iff]
  constructor
  · rintro ⟨own, hread, hown⟩
    have hlength : name.toList.length = own.toList.length := by
      rw [← hown, Text.toList_lowered, Text.lower, List.length_map]
    refine ⟨by rw [← hown, lowered_lowered], ?_⟩
    rcases Expr.exists_parse_column_iff.mp hread with ⟨htrim, name_ok⟩ | htrim
    · rwa [Text.trim_eq_self_of_length_le (by rw [htrim, hlength])] at name_ok
    · -- Between quotes it would have to be longer than itself.
      have hshorter := Text.length_trimBoth_le Text.isBlank name.toList
      have henclosed := Text.Quoted.length_lt_length_enclose '"' own.toList
      rw [← htrim, Text.trim] at henclosed
      omega
  · rintro ⟨hlowered, name_ok⟩
    refine ⟨name, ?_, hlowered⟩
    rw [Expr.exists_parse_column_iff, name_ok.1.tight.trim_eq]
    exact Or.inl ⟨rfl, name_ok⟩

/-- The name of a plain field names it just if it is a bare name. -/
theorem parse_name_iff (hlowered : Text.lowered name = name) :
    parse table name = .ok (.plain name) ↔ Expr.IsColumnName name.toList := by
  rw [parse_eq_plain_self_iff, and_iff_right hlowered]

/-- What the text of a field that was asked for names, and which fields have the same text. -/
theorem text_of_parse {own other : String} (hf : parse builtIn own = .ok f)
    (hg : parse builtIn other = .ok g) :
    (parse builtIn f.text = .ok f ↔ f.StandsBare) ∧
      (f.text = g.text ↔ f = g ∨ f.Mimics g ∨ g.Mimics f) := by
  have hkey (key : String) {container : String} (hmap : builtIn.isMapField container = true) :
      parse builtIn (mapKey container key).text = .ok (.mapKey container key) :=
    parse_subscriptText key (FieldTable.plain_of_isMapField hmap) hmap
  constructor
  · rcases of_parse hf with ⟨name, rfl⟩ | ⟨container, key, rfl, hmap⟩
    · exact parse_name_iff (lowered_lowered name)
    · exact iff_of_true (hkey key hmap) trivial
  · constructor
    · intro htext
      rcases of_parse hf with ⟨a, rfl⟩ | ⟨container, key, rfl, hmap⟩ <;>
        rcases of_parse hg with ⟨b, rfl⟩ | ⟨container', key', rfl, hmap'⟩
      · exact Or.inl (congrArg Field.plain htext)
      · exact Or.inr (Or.inl ⟨container', key', rfl, congrArg Field.plain htext⟩)
      · exact Or.inr (Or.inr ⟨container, key, rfl, congrArg Field.plain htext.symm⟩)
      · have hread := hkey key hmap
        rw [htext, hkey key' hmap'] at hread
        exact Or.inl (Except.ok.inj hread).symm
    · rintro (rfl | ⟨container, key, rfl, rfl⟩ | ⟨container, key, rfl, rfl⟩) <;> rfl

/-- A key, and a plain field with the same text. -/
theorem text_of_parse_at_key :
    (parse builtIn "product['region']" = .ok (.mapKey "product" "region") ∧
        (mapKey "product" "region").StandsBare) ∧
      parse builtIn "\"product['region']\"" = .ok (.plain "product['region']") ∧
      (mapKey "product" "region").text = (plain "product['region']").text := by
  have hkey : parse builtIn "product['region']" = .ok (.mapKey "product" "region") := by
    decide +kernel
  have hplain : parse builtIn "\"product['region']\"" = .ok (.plain "product['region']") := by
    decide +kernel
  obtain ⟨hbare, htext⟩ := text_of_parse hkey hplain
  exact ⟨⟨hkey, hbare.mp hkey⟩, hplain, htext.mpr (Or.inr (Or.inr ⟨_, _, rfl, rfl⟩))⟩

/-- The text of a plain field with a blank in its name names nothing, and the text of one that is named
like a key names the key. -/
theorem text_of_quoted_name :
    parse builtIn "\"user id\"" = .ok (.plain "user id") ∧
      (parse builtIn (plain "user id").text).toOption = none ∧
      parse builtIn "\"product['region']\"" = .ok (.plain "product['region']") ∧
      parse builtIn (plain "product['region']").text = .ok (.mapKey "product" "region") := by
  decide +kernel

/-- The columns of a layout that requests expose have names in lower case. -/
theorem lowered_exposure (h : parse builtIn text = .ok f) (t : Crosswalk) :
    Text.lowered (t.exposureOf f).column = (t.exposureOf f).column := by
  rcases of_parse h with ⟨name, rfl⟩ | ⟨container, key, rfl, hmap⟩
  · exact lowered_lowered name
  · rw [Crosswalk.exposureOf]
    cases t.target with
    | one => exact lowered_lowered _
    | two => exact Column.lowered_eq_self (FieldTable.plain_of_isMapField hmap)

end Field

/-! ### Columns that are exposed -/

namespace Column

variable {name : String}

/-- A column that some request exposes in a layout, given the built-in table. -/
def IsExposed (name : String) : Prop :=
  ∃ (t : Crosswalk) (text : String) (f : Field), t.table = builtIn ∧
    Field.parse builtIn text = .ok f ∧ (t.exposureOf f).column = name

/-- Every name in lower case is exposed by some request, and no other name is. -/
theorem isExposed_iff : IsExposed name ↔ Text.lowered name = name := by
  constructor
  · rintro ⟨t, text, f, -, hparse, rfl⟩
    exact Field.lowered_exposure hparse t
  · intro hlowered
    refine ⟨⟨builtIn, .one, .one⟩, quoted name, .plain name, rfl, ?_, rfl⟩
    exact Field.parse_eq_plain_iff.mpr ⟨name, exists_parse_quoted name, hlowered⟩

/-- The alias of a column is read as that column just if its name is not sensitive or has no quotes in
it.  Requests expose the columns with names in lower case, whatever else is in them. -/
theorem aliasText_of_exposed (name : String) :
    (IsExposed name ↔ Text.lowered name = name) ∧
      ((∃ e, Expr.parse (aliasText name) = .ok e ∧ e.column? = some name) ↔
        ¬ (isSensitive name = true ∧ '"' ∈ name.toList)) :=
  ⟨isExposed_iff, exists_parse_aliasText_iff name⟩

/-- A quote in a sensitive name ends its alias, and a pair of quotes gives the column another name. -/
theorem aliasText_broken :
    IsExposed "a\"b_interval" ∧ aliasText "a\"b_interval" = "\"a\"b_interval\"" ∧
      (Expr.parse (aliasText "a\"b_interval")).toOption = none ∧
      IsExposed "a\"\"b_interval" ∧
      Expr.parse (aliasText "a\"\"b_interval") = .ok (.quoted "a\"b_interval") := by
  refine ⟨isExposed_iff.mpr ?_, ?_, ?_, isExposed_iff.mpr ?_, ?_⟩ <;> decide +kernel

end Column
end CostView
