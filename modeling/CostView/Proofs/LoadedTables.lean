import CostView.FieldTable.Yaml
import CostView.Proofs.Rendering
import CostView.Proofs.Requirements
import CostView.Proofs.Resolutions
import CostView.Proofs.TableIndex

/-!
# Tables out of documents

A document is accepted just if its entries pair columns of generation one with fields of generation
two, one to one.  Out of maps every entry is reached from its column then, since no column is named
like a map column.  Into maps a key of a map column is taken from the column of its entry.  A flat
counterpart leads back to its column as well, but for one that is named like a map column: nothing
keeps an entry from having such a counterpart, and the name leads to the assembled map.
-/

namespace CostView

namespace FieldTable

variable {text : TableText} {document : String} {t : FieldTable} {e : FieldEntry}
  {column name container key : String}

/-! ### What is accepted -/

/-- A written table and the table that it stands for. -/
structure TableText.StandsFor (text : TableText) (t : FieldTable) : Prop where
  version : t.version = text.version
  mapFields : t.mapFields = text.mapColumns
  entries : List.Forall₂ EntryText.StandsFor text.entries t.entries
  bijective : Bijective t.mapFields t.entries

/-- What is built of a written table is the table that it stands for, with its index in step. -/
theorem exists_build_iff : (∃ indexed : IndexedTable, IndexedTable.build text = .ok indexed ∧
    indexed.InStep ∧ indexed.toFieldTable = t) ↔ text.StandsFor t := by
  have hstart := IndexedTable.inStep_empty text.version text.mapColumns
  have haccepted : (∃ indexed, IndexedTable.build text = .ok indexed) ↔ ∃ entries,
      List.Forall₂ EntryText.StandsFor text.entries entries ∧ Bijective text.mapColumns entries :=
    IndexedTable.exists_insertAll_iff hstart ⟨nofun, nofun, .nil, .nil⟩
  constructor
  · rintro ⟨indexed, hbuild, -, rfl⟩
    obtain ⟨-, entries, hentries, htable⟩ := IndexedTable.of_insertAll hstart hbuild
    -- The texts stand for one list of entries, so the bijection is the one that was built.
    obtain ⟨own, hown, hbijective⟩ := haccepted.mp ⟨indexed, hbuild⟩
    obtain rfl := Relator.RightUnique.forall₂ EntryText.StandsFor.rightUnique hown hentries
    rw [htable]
    exact ⟨rfl, rfl, hentries, hbijective⟩
  · intro h
    obtain ⟨version, mapFields, entries⟩ := t
    obtain ⟨rfl, rfl, hentries, hbijective⟩ := h
    obtain ⟨indexed, hbuild⟩ := haccepted.mpr ⟨entries, hentries, hbijective⟩
    obtain ⟨hstep, own, hown, htable⟩ := IndexedTable.of_insertAll hstart hbuild
    obtain rfl := Relator.RightUnique.forall₂ EntryText.StandsFor.rightUnique hown hentries
    exact ⟨indexed, hbuild, hstep, htable⟩

theorem ofYaml_eq_ok_iff {value : Yaml} : ofYaml value = .ok t ↔
    ∃ text, text? value = some text ∧ text.StandsFor t := by
  simp only [← exists_build_iff]
  rw [ofYaml]
  cases text? value with
  | none => simp
  | some text =>
      cases hbuild : IndexedTable.build text with
      | error error => simp [hbuild]
      | ok indexed =>
          have hstep := (IndexedTable.of_insertAll (IndexedTable.inStep_empty _ _) hbuild).1
          simp [hbuild, hstep]

/-- A document holds a table just if it is written there and its entries are a bijection. -/
theorem parse_eq_ok_iff_standsFor : parse document = .ok t ↔
    ∃ value text, Yaml.read? document = some value ∧ text? value = some text ∧
      text.StandsFor t := by
  rw [parse]
  cases Yaml.read? document with
  | none => simp
  | some value => simp [ofYaml_eq_ok_iff]

theorem TableText.StandsFor.parse (h : text.StandsFor t)
    (htext : (Yaml.read? document).bind text? = some text) : parse document = .ok t := by
  obtain ⟨value, hread, hwritten⟩ := Option.bind_eq_some_iff.mp htext
  exact parse_eq_ok_iff_standsFor.mpr ⟨value, text, hread, hwritten, h⟩

theorem bijective_of_parse (h : parse document = .ok t) : Bijective t.mapFields t.entries := by
  obtain ⟨_, _, -, -, hstands⟩ := parse_eq_ok_iff_standsFor.mp h
  exact hstands.bijective

/-- A table out of a document can be looked up by an index. -/
theorem exists_inStep_of_parse (h : parse document = .ok t) :
    ∃ indexed : IndexedTable, indexed.InStep ∧ indexed.toFieldTable = t := by
  obtain ⟨_, _, -, -, hstands⟩ := parse_eq_ok_iff_standsFor.mp h
  obtain ⟨indexed, -, hstep, htable⟩ := exists_build_iff.mpr hstands
  exact ⟨indexed, hstep, htable⟩

/-- The counterpart of an entry was read from a text. -/
theorem exists_parse_of_mem (h : parse document = .ok t) (he : e ∈ t.entries) :
    ∃ written, Expr.parse written = .ok e.counterpart := by
  obtain ⟨_, text, -, -, hstands⟩ := parse_eq_ok_iff_standsFor.mp h
  have hentries := hstands.entries
  obtain ⟨place, hplace, rfl⟩ := List.getElem_of_mem he
  have hown := hentries.get (hentries.length_eq ▸ hplace) hplace
  exact ⟨_, hown.counterpart⟩

/-- The column that an entry has a key of is a map column. -/
theorem isMapField_of_parse (h : parse document = .ok t) (he : e ∈ t.entries)
    (hkey : e.counterpart.subscript? = some (container, key)) : t.isMapField container = true := by
  rw [← Expr.unquoted_eq_subscript_iff] at hkey
  rcases (bijective_of_parse h).isField e he with ⟨name, hname⟩ | ⟨m, hm, own, hown⟩
  · rw [hname] at hkey
    cases hkey
  · obtain ⟨hcontainer, -⟩ := Expr.subscript.inj (hown.symm.trans hkey)
    obtain rfl := Expr.column.inj hcontainer
    exact isMapField_iff_exists_mem.mpr ⟨m, hm, rfl⟩

/-! ### What is found -/

theorem entry?_of_parse (h : parse document = .ok t) (he : e ∈ t.entries) :
    t.entry? e.column = some e := by
  obtain ⟨indexed, hstep, rfl⟩ := exists_inStep_of_parse h
  rw [← hstep.lookups_eq.1]
  exact hstep.entry?_eq_some_iff.mpr ⟨he, rfl⟩

theorem entryOfColumn?_of_parse (h : parse document = .ok t) (he : e ∈ t.entries)
    (hname : e.counterpart.column? = some name) : t.entryOfColumn? name = some e := by
  obtain ⟨indexed, hstep, rfl⟩ := exists_inStep_of_parse h
  rw [← hstep.lookups_eq.2.1]
  exact hstep.entryOfColumn?_eq_some_iff.mpr ⟨he, Expr.unquoted_eq_column_iff.mpr hname⟩

theorem columnForKey_of_parse (h : parse document = .ok t) (he : e ∈ t.entries)
    (hkey : e.counterpart.subscript? = some (container, key)) :
    t.columnForKey container key = e.column := by
  obtain ⟨indexed, hstep, rfl⟩ := exists_inStep_of_parse h
  rw [← hstep.lookups_eq.2.2]
  exact hstep.columnForKey_eq_column he (Expr.unquoted_eq_subscript_iff.mpr hkey)

/-! ### Both directions -/

/-- Out of maps the column of an entry is its counterpart. -/
theorem resolve_column_of_parse (h : parse document = .ok t) (he : e ∈ t.entries) :
    ((⟨t, .two, .one⟩ : Crosswalk).resolve e.column).value =
      .ok (.derived e.counterpart e.counterpart.requirements) := by
  have hmap : t.isMapField e.column = false := by
    rw [Bool.eq_false_iff, ne_eq, isMapField_iff_exists_mem]
    rintro ⟨m, hm, hname⟩
    exact (bijective_of_parse h).notMap e he m hm hname
  rw [Crosswalk.value_resolve_toFlat_eq_ok_iff rfl rfl]
  exact Or.inr ⟨hmap, Or.inl ⟨e, entry?_of_parse h he, rfl⟩⟩

/-- Into maps a flat counterpart is the column of its entry, save for the name of a map column. -/
theorem resolve_counterpart_iff_of_parse (h : parse document = .ok t) (he : e ∈ t.entries)
    (hname : e.counterpart.column? = some name) :
    ((⟨t, .one, .two⟩ : Crosswalk).resolve name).value =
        .ok (.derived (Column.expr e.column) [e.column]) ↔ ∀ m ∈ t.mapFields, m.name ≠ name := by
  have hpass : Crosswalk.passThrough e.column = .derived (Column.expr e.column) [e.column] := by
    rw [Crosswalk.passThrough, columns_expr]
  have hnone : t.mapField? name = none ↔ ∀ m ∈ t.mapFields, m.name ≠ name := by
    simp [mapField?]
  rw [Crosswalk.value_resolve_toMap_eq_ok_iff rfl rfl, ← hnone]
  constructor
  · rintro (⟨m, -, heq⟩ | ⟨hfree, -⟩)
    · cases heq
    · exact hfree
  · intro hfree
    exact Or.inr ⟨hfree, e, entryOfColumn?_of_parse h he hname, hpass.symm⟩

/-- Into maps the name of a map column is that map, assembled. -/
theorem resolve_mapField {m : MapField} (hm : t.mapField? name = some m) :
    ((⟨t, .one, .two⟩ : Crosswalk).resolve name).value = .ok (.assembly m) :=
  (Crosswalk.value_resolve_toMap_eq_ok_iff rfl rfl).mpr (Or.inl ⟨m, hm, rfl⟩)

/-- In an assembled map the key of an entry has the value of the entry's column. -/
theorem exists_cells_of_parse (h : parse document = .ok t) (he : e ∈ t.entries)
    (hkey : e.counterpart.subscript? = some (container, key)) {m : MapField}
    (hm : t.mapField? container = some m) {source : SourceTable} {s : ViewState}
    (hsource : source.generation = .one) (hmem : key ∈ s.keysOf container) :
    ∃ cells, ((⟨t, source, .two⟩ : Compiler).renderColumn s container).value =
        .ok ⟨container, .map cells⟩ ∧
      ∀ cell, (key, cell) ∈ cells ↔ cell =
        if source.hasRequirement e.column then .column e.column
        else .null (m.valueType.nullLiteral?.getD SqlType.nullVarchar) := by
  have hcolumn : t.columnForKey m.name key = e.column := by
    rw [(of_mapField? hm).2, columnForKey_of_parse h he hkey]
  have hkeys : s.keysOf container ≠ ∅ := Std.ExtTreeSet.ne_empty_of_mem hmem
  have hresolve : ((⟨t, source, .two⟩ : Compiler).crosswalk.resolve container).value =
      .ok (.assembly m) := by
    rw [Compiler.crosswalk, hsource]
    exact resolve_mapField hm
  refine ⟨_, Compiler.value_renderColumn_eq_ok_iff.mpr ⟨rfl, _, hresolve, .map hkeys⟩, ?_⟩
  intro cell
  simp only [List.mem_map, Std.ExtTreeSet.mem_toList, assembledCell, Prod.mk.injEq]
  constructor
  · rintro ⟨own, -, rfl, rfl⟩
    rw [hcolumn]
  · rintro rfl
    exact ⟨key, hmem, rfl, by rw [hcolumn]⟩

/-- Every entry of a table out of a document is reached.  Out of maps its column leads to its
counterpart.  Into maps a flat counterpart leads back to the column just if no map column has its
name, and to the map otherwise; a key leads back to the column always, since the map that the key
belongs to is assembled and takes the value of the key from there. -/
theorem entry_reached (h : parse document = .ok t) (he : e ∈ t.entries) :
    ((⟨t, .two, .one⟩ : Crosswalk).resolve e.column).value =
        .ok (.derived e.counterpart e.counterpart.requirements) ∧
    (∀ name, e.counterpart.column? = some name →
      (((⟨t, .one, .two⟩ : Crosswalk).resolve name).value =
          .ok (.derived (Column.expr e.column) [e.column]) ↔ ∀ m ∈ t.mapFields, m.name ≠ name) ∧
      ∀ m, t.mapField? name = some m →
        ((⟨t, .one, .two⟩ : Crosswalk).resolve name).value = .ok (.assembly m)) ∧
    ∀ container key, e.counterpart.subscript? = some (container, key) →
      ∃ m, ((⟨t, .one, .two⟩ : Crosswalk).resolve container).value = .ok (.assembly m) ∧
        ∀ (source : SourceTable) (s : ViewState), source.generation = .one →
          key ∈ s.keysOf container →
          ∃ cells, ((⟨t, source, .two⟩ : Compiler).renderColumn s container).value =
              .ok ⟨container, .map cells⟩ ∧
            ∀ cell, (key, cell) ∈ cells ↔ cell =
              if source.hasRequirement e.column then .column e.column
              else .null (m.valueType.nullLiteral?.getD SqlType.nullVarchar) := by
  refine ⟨resolve_column_of_parse h he, fun name hname => ?_, fun container key hkey => ?_⟩
  · exact ⟨resolve_counterpart_iff_of_parse h he hname, fun m hm => resolve_mapField hm⟩
  · obtain ⟨m, hm⟩ := Option.isSome_iff_exists.mp (isMapField_of_parse h he hkey)
    refine ⟨m, resolve_mapField hm, fun source s hsource hmem => ?_⟩
    exact exists_cells_of_parse h he hkey hm hsource hmem

/-- A document with a column that keeps its name and a key of a column between quotes. -/
def quotedKeyDocument : String :=
  "version: '1'\nmap_fields:\n- name: product\n  value_type: varchar\nfields:\n" ++
    "- v1: usage\n  type: double\n  default: true\n" ++
    "- v1: product_region\n  v2: '\"product\"[''region'']'\n  type: varchar\n"

theorem parse_quotedKeyDocument : parse quotedKeyDocument =
    .ok ⟨"1", IndexedTable.quotedKeyText.mapColumns, IndexedTable.quotedKeyEntries⟩ := by
  have hstands : IndexedTable.quotedKeyText.StandsFor
      ⟨"1", IndexedTable.quotedKeyText.mapColumns, IndexedTable.quotedKeyEntries⟩ :=
    ⟨rfl, rfl, IndexedTable.standsFor_quotedKeyText, IndexedTable.bijective_quotedKeyText⟩
  exact hstands.parse (by decide +kernel)

theorem entry_reached_at_quoted_key :
    let t : FieldTable :=
      ⟨"1", IndexedTable.quotedKeyText.mapColumns, IndexedTable.quotedKeyEntries⟩
    let region := Expr.subscript (.quoted "product") "region"
    let source : SourceTable := ⟨"cur", .one, .ofList [("product_region", SqlType.varchar)]⟩
    let s := ViewState.empty.expose (.ofKey "product" "region")
    parse quotedKeyDocument = .ok t ∧
      (∃ e ∈ t.entries, e.column = "usage" ∧ e.counterpart = .column "usage") ∧
      (∃ e ∈ t.entries, e.column = "product_region" ∧ e.counterpart = region) ∧
      ((⟨t, .one, .two⟩ : Crosswalk).resolve "usage").value =
        .ok (.derived (.column "usage") ["usage"]) ∧
      ((⟨t, .two, .one⟩ : Crosswalk).resolve "product_region").value =
        .ok (.derived region region.requirements) ∧
      "region" ∈ s.keysOf "product" ∧
      ∃ cells, ((⟨t, source, .two⟩ : Compiler).renderColumn s "product").value =
          .ok ⟨"product", .map cells⟩ ∧ ("region", .column "product_region") ∈ cells := by
  intro t region source s
  let usage : FieldEntry := ⟨"usage", .column "usage", .double, true⟩
  let keyed : FieldEntry := ⟨"product_region", region, .varchar, false⟩
  have husage : usage ∈ t.entries := List.mem_cons_self
  have hkeyed : keyed ∈ t.entries := List.mem_cons_of_mem _ List.mem_cons_self
  have hmem : "region" ∈ s.keysOf "product" := by decide +kernel
  obtain ⟨-, hflat, -⟩ := entry_reached parse_quotedKeyDocument husage
  obtain ⟨hfrom, -, hkey⟩ := entry_reached parse_quotedKeyDocument hkeyed
  obtain ⟨m, -, hrender⟩ := hkey "product" "region" rfl
  obtain ⟨cells, hcells, hcell⟩ := hrender source s rfl hmem
  have husageBack := (hflat "usage" rfl).1.mpr (by decide +kernel)
  have hbare : Column.expr "usage" = .column "usage" := by decide +kernel
  rw [hbare] at husageBack
  have hthere : source.hasRequirement "product_region" = true := by decide +kernel
  refine ⟨parse_quotedKeyDocument, ⟨usage, husage, rfl, rfl⟩, ⟨keyed, hkeyed, rfl, rfl⟩,
    husageBack, hfrom, hmem, cells, hcells, ?_⟩
  rw [hcell, if_pos hthere]

/-- A document with an entry whose counterpart is a map column. -/
def mapCounterpartDocument : String :=
  "version: '1'\nmap_fields:\n- name: product\n  value_type: varchar\nfields:\n" ++
    "- v1: product_name\n  v2: product\n  type: varchar\n"

/-- The document is accepted, and the column of its entry is not reached from the counterpart. -/
theorem map_counterpart_not_reached :
    let e : FieldEntry := ⟨"product_name", .column "product", .varchar, false⟩
    let t : FieldTable := ⟨"1", [⟨"product", .varchar⟩], [e]⟩
    parse mapCounterpartDocument = .ok t ∧ e.counterpart.column? = some "product" ∧
      ((⟨t, .one, .two⟩ : Crosswalk).resolve "product").value =
        .ok (.assembly ⟨"product", .varchar⟩) ∧
      ((⟨t, .one, .two⟩ : Crosswalk).resolve "product").value ≠
        .ok (.derived (Column.expr "product_name") ["product_name"]) := by
  intro e t
  let text : TableText :=
    ⟨"1", [("product", "varchar")], [⟨"product_name", some "product", "varchar", false⟩]⟩
  have hstands : text.StandsFor t := by
    refine ⟨rfl, by decide +kernel, ?_, by decide +kernel, ?_, by decide +kernel, by decide +kernel⟩
    · exact .cons (EntryText.read_eq_ok_iff.mp (by decide +kernel)) .nil
    · exact List.forall_mem_singleton.mpr (Or.inl ⟨"product", rfl⟩)
  have hparse : parse mapCounterpartDocument = .ok t := hstands.parse (by decide +kernel)
  have hassembly : ((⟨t, .one, .two⟩ : Crosswalk).resolve "product").value =
      .ok (.assembly ⟨"product", .varchar⟩) :=
    resolve_mapField (by decide +kernel)
  refine ⟨hparse, rfl, hassembly, ?_⟩
  rw [hassembly]
  nofun

end FieldTable
end CostView
