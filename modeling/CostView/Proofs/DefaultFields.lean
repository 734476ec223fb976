import CostView.Proofs.LoadedTables
import CostView.Proofs.SelectList

/-!
# What is left of the default fields

A table lists the fields that are exposed when none is asked for: the columns of its default
entries, or their counterparts and the map columns.  A list of texts stands for them, and what the
request asks for is what these texts are read as.  A key is listed as an expression, with its map
column between quotes if it was written so, and a column as its bare name.  So a column is lost if
its name is none that stands bare, and everything is lost that is not named in lower case.
-/

namespace CostView

namespace Expr

variable {e : Expr} {text container key : String}

theorem hasFloat_eq_false_of_subscript? (h : e.subscript? = some (container, key)) :
    e.hasFloat = false := by
  cases e with
  | subscript inner _ => cases inner <;> first | rfl | cases h
  | _ => cases h

/-- A key that was read is read again from its printed text. -/
theorem parse_sql_of_subscript? (hread : parse text = .ok e)
    (hkey : e.subscript? = some (container, key)) : parse e.sql = .ok e := by
  apply parse_of_isExpr_toList
  rw [toList_sql]
  exact (isExpr_of_parse hread).printed (hasFloat_eq_false_of_subscript? hkey)

end Expr

namespace FieldTable

variable {document text name : String} {t : FieldTable} {e : FieldEntry} {g : Generation}
  {x : Exposure} {f : Field}

/-! ### What is listed -/

/-- The default fields of a generation, each with the text that is listed for it and the place where
it is to be exposed. -/
inductive IsDefault (t : FieldTable) : Generation → String → Exposure → Prop
  | column {e : FieldEntry} (entry : e ∈ t.entries) (marked : e.isDefault = true) :
      IsDefault t .one e.column (.ofColumn e.column)
  | counterpart {e : FieldEntry} (entry : e ∈ t.entries) (marked : e.isDefault = true)
      {name : String} (column : e.counterpart.column? = some name) :
      IsDefault t .two name (.ofColumn name)
  | key {e : FieldEntry} (entry : e ∈ t.entries) (marked : e.isDefault = true)
      {container key : String} (subscript : e.counterpart.subscript? = some (container, key)) :
      IsDefault t .two e.counterpart.sql (.ofKey container key)
  | container {m : MapField} (known : m ∈ t.mapFields) :
      IsDefault t .two m.name (.ofColumn m.name)

theorem mem_defaultFields_one_iff : text ∈ t.defaultFields .one ↔
    ∃ e ∈ t.entries, e.isDefault = true ∧ e.column = text := by
  rw [defaultFields, Std.ExtTreeSet.mem_ofList, List.contains_iff_mem, List.mem_map]
  simp only [List.mem_filter, and_assoc]

theorem mem_defaultFields_two_iff : text ∈ t.defaultFields .two ↔
    (∃ e ∈ t.entries, e.isDefault = true ∧
      e.counterpart.column?.getD e.counterpart.sql = text) ∨ ∃ m ∈ t.mapFields, m.name = text := by
  rw [defaultFields, Std.ExtTreeSet.mem_ofList, List.contains_iff_mem, List.mem_append,
    List.mem_map, List.mem_map]
  simp only [List.mem_filter, and_assoc]

/-- The texts that are listed are those of the default fields. -/
theorem mem_defaultFields_iff (h : parse document = .ok t) :
    text ∈ t.defaultFields g ↔ ∃ x, t.IsDefault g text x := by
  cases g with
  | one =>
      rw [mem_defaultFields_one_iff]
      constructor
      · rintro ⟨e, he, hmarked, rfl⟩
        exact ⟨_, .column he hmarked⟩
      · rintro ⟨x, hx⟩
        cases hx with
        | @column e entry marked => exact ⟨e, entry, marked, rfl⟩
  | two =>
      rw [mem_defaultFields_two_iff]
      constructor
      · rintro (⟨e, he, hmarked, rfl⟩ | ⟨m, hm, rfl⟩)
        · rcases (bijective_of_parse h).isField e he with ⟨name, hname⟩ | ⟨m, -, key, hkey⟩
          · rw [Expr.unquoted_eq_column_iff] at hname
            rw [hname]
            exact ⟨_, .counterpart he hmarked hname⟩
          · rw [Expr.unquoted_eq_subscript_iff] at hkey
            rw [Expr.column?_eq_none_of_subscript? hkey]
            exact ⟨_, .key he hmarked hkey⟩
        · exact ⟨_, .container hm⟩
      · rintro ⟨x, hx⟩
        cases hx with
        | @counterpart e entry marked name column =>
            exact Or.inl ⟨e, entry, marked, by rw [column]; rfl⟩
        | @key e entry marked container key subscript =>
            refine Or.inl ⟨e, entry, marked, ?_⟩
            rw [Expr.column?_eq_none_of_subscript? subscript]
            rfl
        | @container m known => exact Or.inr ⟨m, known, rfl⟩

/-! ### What is kept -/

/-- A listed text names a field of the default request that is exposed at a place. -/
def Keeps (t : FieldTable) (g : Generation) (text : String) (x : Exposure) : Prop :=
  ∃ f ∈ (Request.defaults t g).fields, Field.parse t text = .ok f ∧
    ∀ source, (⟨t, source, g⟩ : Crosswalk).exposureOf f = x

/-- A text that is listed is kept at a place just if it is read as a field that is exposed there. -/
theorem keeps_iff (htext : text ∈ t.defaultFields g) : t.Keeps g text x ↔
    ∃ f, Field.parse t text = .ok f ∧ ∀ source, (⟨t, source, g⟩ : Crosswalk).exposureOf f = x := by
  constructor
  · rintro ⟨f, -, hparse, hexposed⟩
    exact ⟨f, hparse, hexposed⟩
  · rintro ⟨f, hparse, hexposed⟩
    exact ⟨f, Request.mem_defaults htext hparse, hparse, hexposed⟩

/-- A name that is read as a key of generation one, and the key is exposed as the column of that
very name. -/
def NamesItsKey (t : FieldTable) (name : String) : Prop :=
  ∃ container key, Field.parse t name = .ok (.mapKey container key) ∧
    Text.lowered (t.columnForKey container key) = name

/-- A name that is listed as it stands is kept if it is a bare name in lower case.  In generation
one it may also name a key that is exposed there. -/
theorem keeps_name_iff (hname : name ∈ t.defaultFields g) :
    t.Keeps g name (.ofColumn name) ↔
      (Text.lowered name = name ∧ Expr.IsColumnName name.toList) ∨
        g = .one ∧ t.NamesItsKey name := by
  rw [keeps_iff hname, ← @Field.parse_eq_plain_self_iff t name]
  constructor
  · rintro ⟨f, hparse, hexposed⟩
    have hplace := hexposed .one
    cases f with
    | plain own =>
        obtain rfl : own = name := congrArg Exposure.column hplace
        exact Or.inl hparse
    | mapKey container key =>
        -- A key has a column of its own in generation one only.
        cases g with
        | one => exact Or.inr ⟨rfl, container, key, hparse, congrArg Exposure.column hplace⟩
        | two => cases congrArg Exposure.key hplace
  · rintro (hparse | ⟨rfl, container, key, hparse, hcolumn⟩)
    · exact ⟨_, hparse, fun source => rfl⟩
    · exact ⟨_, hparse, fun source => congrArg Exposure.ofColumn hcolumn⟩

/-- A key is kept just if its map column is named in lower case. -/
theorem keeps_key_iff (h : parse document = .ok t) (he : e ∈ t.entries) {container key : String}
    (hkey : e.counterpart.subscript? = some (container, key))
    (htext : e.counterpart.sql ∈ t.defaultFields .two) :
    t.Keeps .two e.counterpart.sql (.ofKey container key) ↔ Text.lowered container = container := by
  obtain ⟨written, hwritten⟩ := exists_parse_of_mem h he
  have hread := Expr.parse_sql_of_subscript? hwritten hkey
  rw [keeps_iff htext, Field.parse_of_subscript? hread hkey]
  constructor
  · rintro ⟨f, hparse, hexposed⟩
    split at hparse
    · cases hparse
      exact congrArg Exposure.column (hexposed .one)
    · cases hparse
  · intro hlowered
    rw [hlowered, if_pos (isMapField_of_parse h he hkey)]
    exact ⟨_, rfl, fun source => rfl⟩

/-- The texts that are listed stand for the default fields.  Each is kept just if its column is
named in lower case and, unless it is a key, the name stands bare.  Apart from these, only a column
of generation one is kept that is named like a key which is exposed as this column. -/
theorem default_kept_iff (h : parse document = .ok t) (g : Generation) :
    (∀ text, text ∈ t.defaultFields g ↔ ∃ x, t.IsDefault g text x) ∧
      ∀ text x, t.IsDefault g text x → (t.Keeps g text x ↔
        (Text.lowered x.column = x.column ∧
            (x.key ≠ none ∨ Expr.IsColumnName x.column.toList)) ∨
          g = .one ∧ t.NamesItsKey text) := by
  refine ⟨fun text => mem_defaultFields_iff h, fun text x hx => ?_⟩
  have htext : text ∈ t.defaultFields g := (mem_defaultFields_iff h).mpr ⟨x, hx⟩
  -- Columns, counterparts and map columns are all listed as their bare names.
  have hname (name : String) (hlisted : name ∈ t.defaultFields g) :
      t.Keeps g name (.ofColumn name) ↔
        (Text.lowered name = name ∧ ((none : Option String) ≠ none ∨
          Expr.IsColumnName name.toList)) ∨ g = .one ∧ t.NamesItsKey name := by
    rw [keeps_name_iff hlisted, or_iff_right (not_not_intro rfl)]
  cases hx with
  | column _ _ => exact hname _ htext
  | counterpart _ _ _ => exact hname _ htext
  | container _ => exact hname _ htext
  | @key e entry _ container key subscript =>
      rw [keeps_key_iff h entry subscript htext]
      constructor
      · exact fun hlowered => Or.inl ⟨hlowered, Or.inl (Option.some_ne_none key)⟩
      · rintro (⟨hlowered, -⟩ | ⟨hone, -⟩)
        · exact hlowered
        · cases hone

/-- A document with two default entries: a key of a map column and a column, both between quotes. -/
def quotedNameDocument : String :=
  "version: '1'\nmap_fields:\n- name: product\n  value_type: varchar\nfields:\n" ++
    "- v1: product_region\n  v2: '\"product\"[''region'']'\n  type: varchar\n  default: true\n" ++
    "- v1: user_id\n  v2: '\"user id\"'\n  type: varchar\n  default: true\n"

/-- The table in that document. -/
def quotedNameTable : FieldTable :=
  ⟨"1", [⟨"product", .varchar⟩],
    [⟨"product_region", .subscript (.quoted "product") "region", .varchar, true⟩,
      ⟨"user_id", .quoted "user id", .varchar, true⟩]⟩

theorem parse_quotedNameDocument : parse quotedNameDocument = .ok quotedNameTable := by
  let text : TableText :=
    ⟨"1", [("product", "varchar")],
      [⟨"product_region", some "\"product\"['region']", "varchar", true⟩,
        ⟨"user_id", some "\"user id\"", "varchar", true⟩]⟩
  have hstands : text.StandsFor quotedNameTable := by
    refine ⟨rfl, by decide +kernel, ?_, by decide +kernel, ?_, by decide +kernel, by decide +kernel⟩
    · refine .cons ?_ (.cons ?_ .nil)
      · exact EntryText.read_eq_ok_iff.mp (by decide +kernel)
      · exact EntryText.read_eq_ok_iff.mp (by decide +kernel)
    · rw [quotedNameTable, List.forall_mem_cons, List.forall_mem_singleton]
      exact ⟨Or.inr ⟨_, List.mem_cons_self, "region", rfl⟩, Or.inl ⟨"user id", rfl⟩⟩
  exact hstands.parse (by decide +kernel)

theorem default_kept_at_quoted_map :
    parse quotedNameDocument = .ok quotedNameTable ∧
      quotedNameTable.Keeps .one "user_id" (.ofColumn "user_id") ∧
      quotedNameTable.Keeps .two "product" (.ofColumn "product") ∧
      quotedNameTable.Keeps .two "\"product\"['region']" (.ofKey "product" "region") := by
  have hparse := parse_quotedNameDocument
  obtain ⟨-, hone⟩ := default_kept_iff hparse .one
  obtain ⟨-, htwo⟩ := default_kept_iff hparse .two
  have huser : quotedNameTable.IsDefault .one "user_id" (.ofColumn "user_id") :=
    @IsDefault.column _ ⟨"user_id", .quoted "user id", .varchar, true⟩ (by decide +kernel) rfl
  have hproduct : quotedNameTable.IsDefault .two "product" (.ofColumn "product") :=
    @IsDefault.container _ ⟨"product", .varchar⟩ List.mem_cons_self
  have hregion : quotedNameTable.IsDefault .two
      (Expr.subscript (.quoted "product") "region").sql (.ofKey "product" "region") :=
    @IsDefault.key _ ⟨"product_region", .subscript (.quoted "product") "region", .varchar, true⟩
      List.mem_cons_self rfl "product" "region" rfl
  have hsql : (Expr.subscript (.quoted "product") "region").sql = "\"product\"['region']" := by
    decide +kernel
  rw [hsql] at hregion
  have hplain (name : String) (h : Column.needsQuoting name = false) :
      Text.lowered name = name ∧ Expr.IsColumnName name.toList :=
    Field.parse_eq_plain_self_iff.mp (Field.parse_plain quotedNameTable h)
  obtain ⟨huserCase, huserName⟩ := hplain "user_id" (by decide +kernel)
  obtain ⟨hproductCase, hproductName⟩ := hplain "product" (by decide +kernel)
  exact ⟨hparse, (hone _ _ huser).mpr (Or.inl ⟨huserCase, Or.inr huserName⟩),
    (htwo _ _ hproduct).mpr (Or.inl ⟨hproductCase, Or.inr hproductName⟩),
    (htwo _ _ hregion).mpr (Or.inl ⟨hproductCase, Or.inl nofun⟩)⟩

/-- A column that has to stand between quotes is listed without them, and so it is lost. -/
theorem quoted_name_lost :
    parse quotedNameDocument = .ok quotedNameTable ∧
      quotedNameTable.IsDefault .two "user id" (.ofColumn "user id") ∧
      "user id" ∈ quotedNameTable.defaultFields .two ∧
      ¬ quotedNameTable.Keeps .two "user id" (.ofColumn "user id") ∧
      (Request.defaults quotedNameTable .two).toList =
        [.plain "product", .mapKey "product" "region"] := by
  refine ⟨parse_quotedNameDocument, ?_, by decide +kernel, ?_, by decide +kernel⟩
  · exact @IsDefault.counterpart _ ⟨"user_id", .quoted "user id", .varchar, true⟩
      (by decide +kernel) rfl "user id" rfl
  · rintro ⟨f, -, hparse, -⟩
    have hrefused : (Field.parse quotedNameTable "user id").toOption = none := by decide +kernel
    rw [hparse] at hrefused
    cases hrefused

end FieldTable
end CostView
