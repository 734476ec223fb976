import CostView.Proofs.CatalogCalls
import CostView.Proofs.RenderedText
import CostView.Proofs.Requirements

/-!
# The source columns that a definition refers to

What a column of a view requires is checked before its expression is written, so a statement refers
to columns that the source has, and a column or key without its source column becomes a NULL.  Only
what can be asked for counts: a name or key with a closing bracket or a double quote may be taken
for that of another column.

There is one exception, and it is meant to be one.  A map column of a source of generation two that
is exposed in the layout of generation one requires nothing, so it is handed on whether the source
has it or not.
-/

namespace CostView

open FieldTable (builtIn)

/-- A source column that an item of a definition refers to, with the name of the column or the key
that it gives a value to. -/
inductive SelectItem.Reads (item : SelectItem) : String → String → Prop
  | expr {e : Expr} {name : String} (value : item.value = .expr e) (column : name ∈ e.columns) :
      Reads item item.column name
  | cell {cells : List (String × Cell)} {key name : String} (value : item.value = .map cells)
      (cell : (key, .column name) ∈ cells) : Reads item key name

/-- A name or key without closing brackets and double quotes. -/
structure Unmarked (text : String) : Prop where
  bracket : ']' ∉ text.toList
  quote : '"' ∉ text.toList

namespace Compiler

variable {c : Compiler} {s : ViewState} {column : String}

/-- Whether a column is a map column that is handed on as it is, out of its generation. -/
def HandsOn (c : Compiler) (column : String) : Prop :=
  c.source.generation = .two ∧ c.target = .one ∧ c.table.isMapField column = true

/-- The source column of the same name is required, whatever its name, if that can be asked for. -/
theorem requirements_passThrough_iff {name : String}
    (hname : c.source.hasRequirement name = c.source.hasColumn name) :
    (∀ r ∈ (Column.expr name).columns, c.source.hasRequirement r = true) ↔
      ∀ n ∈ (Column.expr name).columns, c.source.hasColumn n = true := by
  simp [columns_expr, hname]

/-- A key requires the map column that it is a key of. -/
theorem requirements_key_iff {container key : String}
    (hcontainer : Column.needsQuoting container = false) :
    (∀ r ∈ [subscriptText container key], c.source.hasRequirement r = true) ↔
      ∀ n ∈ (Expr.subscript (.column container) key).columns, c.source.hasColumn n = true := by
  simp [Expr.columns, SourceTable.hasRequirement_subscriptText hcontainer]

/-- Unless it is handed on, an expression requires just the columns that it refers to. -/
theorem requirements_iff_columns (htable : c.table = builtIn) (hcolumn : Unmarked column)
    (hkept : ¬ c.HandsOn column) {e : Expr} {requirements : List String}
    (hresolve : (c.crosswalk.resolve column).value = .ok (.derived e requirements)) :
    (∀ r ∈ requirements, c.source.hasRequirement r = true) ↔
      ∀ name ∈ e.columns, c.source.hasColumn name = true := by
  rcases c.crosswalk.kinds with hsame | ⟨hsource, htarget⟩ | ⟨hsource, htarget⟩
  · rw [Crosswalk.value_resolve_same hsame] at hresolve
    cases hresolve
    exact requirements_passThrough_iff
      (SourceTable.hasRequirement_of_unmarked hcolumn.bracket hcolumn.quote)
  · rw [Crosswalk.value_resolve_toMap_eq_ok_iff hsource htarget, crosswalk, htable] at hresolve
    rcases hresolve with ⟨m, -, heq⟩ | ⟨-, entry, hentry, heq⟩
    · cases heq
    · obtain ⟨hplain, type, -, isDefault, rfl⟩ := FieldTable.eq_same_of_entryOfColumn? hentry
      cases heq
      exact requirements_passThrough_iff (SourceTable.hasRequirement_plain hplain)
  · rw [Crosswalk.value_resolve_toFlat_eq_ok_iff hsource htarget, crosswalk, htable] at hresolve
    rcases hresolve with ⟨hmap, -⟩ | ⟨-, ⟨entry, hentry, heq⟩ | ⟨-, m, key, hsplit, heq⟩⟩
    · exact absurd ⟨hsource, htarget, by rw [htable, hmap]⟩ hkept
    · obtain ⟨hregular, -⟩ := FieldTable.regular_of_entry? hentry
      cases heq
      cases hregular with
      | @same name type isDefault plain _ =>
          rw [FieldTable.same, requirements_expr, ← columns_expr]
          exact requirements_passThrough_iff (SourceTable.hasRequirement_plain plain)
      | @keyed container key type isDefault known _ _ =>
          exact requirements_key_iff (FieldTable.plain_of_isMapField known)
    · obtain ⟨hmem, -⟩ := FieldTable.of_splitColumn? hsplit
      cases heq
      exact requirements_key_iff (FieldTable.mapField_of_mem hmem).1

/-- The value of a key in an assembled map refers to a column of the source, or it is a NULL. -/
theorem assembledCell_eq {m : MapField} (hm : m ∈ FieldTable.builtInMapFields) {key : String}
    (hkey : ']' ∉ key.toList) :
    assembledCell builtIn c.source.hasRequirement m key =
      (key, if c.source.hasColumn (builtIn.columnForKey m.name key) then
        .column (builtIn.columnForKey m.name key)
      else .null (m.valueType.nullLiteral?.getD SqlType.nullVarchar)) := by
  rw [assembledCell, SourceTable.hasRequirement_columnForKey hm hkey]

/-- What an item refers to exists in the source, unless the item is handed on. -/
theorem hasColumn_of_reads (htable : c.table = builtIn) {item : SelectItem}
    (hitem : c.IsItem s column item) {label name : String} (hreads : item.Reads label name)
    (hlabel : Unmarked label) :
    c.source.hasColumn name = true ∨
      c.HandsOn item.column ∧ item.value = .expr (.column item.column) := by
  obtain ⟨rfl, resolution, hresolve, hyields⟩ := hitem
  cases hreads with
  | @expr e name value hmem =>
      rw [value] at hyields ⊢
      cases hyields with
      | @expr _ requirements complete =>
          -- The one resolution whose expression has a column that it does not require.
          by_cases hkept : c.HandsOn item.column
          · obtain ⟨hsource, htarget, hmap⟩ := id hkept
            rw [Crosswalk.value_resolve_toFlat_eq_ok_iff hsource htarget] at hresolve
            rcases hresolve with ⟨-, heq⟩ | ⟨hnone, -⟩
            · cases heq
              exact Or.inr ⟨hkept, rfl⟩
            · exact absurd (hmap.symm.trans hnone) (by decide)
          · exact Or.inl ((requirements_iff_columns htable hlabel hkept hresolve).mp complete
              name hmem)
  | @cell cells key name value hcell =>
      rw [value] at hyields
      cases hyields with
      | @map container keyed =>
          obtain ⟨-, -, hmap⟩ := Crosswalk.of_value_resolve_eq_assembly hresolve
          rw [crosswalk, htable] at hmap
          obtain ⟨own, -, hsame⟩ := List.mem_map.mp hcell
          have hkey : own = label := congrArg Prod.fst hsame
          rw [htable, hkey, assembledCell_eq (FieldTable.of_mapField? hmap).1 hlabel.bracket]
            at hsame
          split at hsame
          · next hthere =>
              cases hsame
              exact Or.inl hthere
          · cases congrArg Prod.snd hsame

/-- An expression that would refer to a column that the source lacks is the NULL of its type. -/
theorem null_of_absent (htable : c.table = builtIn) {item : SelectItem}
    (hitem : c.IsItem s column item) (hcolumn : Unmarked item.column)
    (hkept : ¬ c.HandsOn item.column) {e : Expr} {requirements : List String}
    (hresolve : (c.crosswalk.resolve item.column).value = .ok (.derived e requirements))
    (habsent : ∃ name ∈ e.columns, c.source.hasColumn name = false) :
    ∃ type literal, c.targetType? s item.column = some type ∧ type.nullLiteral? = some literal ∧
      item.value = .null literal := by
  obtain ⟨rfl, resolution, hown, hyields⟩ := hitem
  obtain rfl : resolution = .derived e requirements := by
    rw [hresolve] at hown
    exact (Except.ok.inj hown).symm
  refine (yields_iff_of_missing ?_).mp hyields
  by_contra hcomplete
  obtain ⟨name, hname, hmissing⟩ := habsent
  have hthere := (requirements_iff_columns htable hcolumn hkept hresolve).mp
    (by simpa using hcomplete) name hname
  rw [hmissing] at hthere
  cases hthere

/-- A key without its source column has the NULL of the values of its map. -/
theorem cell_of_absent (htable : c.table = builtIn) {item : SelectItem}
    (hitem : c.IsItem s column item) {m : MapField}
    (hresolve : (c.crosswalk.resolve item.column).value = .ok (.assembly m)) {key : String}
    (hkey : key ∈ s.keysOf item.column) (hbracket : ']' ∉ key.toList)
    (habsent : c.source.hasColumn (c.table.columnForKey m.name key) = false) :
    ∃ cells, item.value = .map cells ∧
      (key, .null (m.valueType.nullLiteral?.getD SqlType.nullVarchar)) ∈ cells := by
  obtain ⟨rfl, resolution, hown, hyields⟩ := hitem
  obtain rfl : resolution = .assembly m := by
    rw [hresolve] at hown
    exact (Except.ok.inj hown).symm
  obtain ⟨-, -, hmap⟩ := Crosswalk.of_value_resolve_eq_assembly hresolve
  rw [crosswalk, htable] at hmap
  refine ⟨_, (yields_iff_of_keyed (Std.ExtTreeSet.ne_empty_of_mem hkey)).mp hyields,
    List.mem_map.mpr ⟨key, Std.ExtTreeSet.mem_toList.mpr hkey, ?_⟩⟩
  rw [htable] at habsent ⊢
  rw [assembledCell_eq (FieldTable.of_mapField? hmap).1 hbracket, habsent]
  rfl

/-- Whatever is compiled, the statement that is executed refers to columns that the source has, in
all that can be asked for, apart from map columns that are handed on.  Every column of the view has
its item; one whose expression would refer to a column that the source lacks is the NULL of its
type, and a key whose column the source lacks has the NULL of the values of its map. -/
theorem references_of_execute {σ : Type} (c : Compiler) (htable : c.table = builtIn)
    (engine : Engine σ) (snapshot : Snapshot) (request : Request) (world : σ) (sql : String)
    (hexecuted : .execute sql ∈ c.calls engine snapshot request world) :
    let s := c.goal engine snapshot request world
    ∃ d, (c.render s).value = .ok d ∧ d.sql = sql ∧
      (∀ column, s.hasColumn column = true → ∃ item ∈ d.items, item.column = column) ∧
      ∀ item ∈ d.items,
        (∀ label name, item.Reads label name → Unmarked label →
          c.source.hasColumn name = true ∨
            c.HandsOn item.column ∧ item.value = .expr (.column item.column)) ∧
        (Unmarked item.column → ¬ c.HandsOn item.column → ∀ e requirements,
          (c.crosswalk.resolve item.column).value = .ok (.derived e requirements) →
          (∃ name ∈ e.columns, c.source.hasColumn name = false) →
            ∃ type literal, c.targetType? s item.column = some type ∧
              type.nullLiteral? = some literal ∧ item.value = .null literal) ∧
        ∀ m, (c.crosswalk.resolve item.column).value = .ok (.assembly m) →
          ∀ key ∈ s.keysOf item.column, Unmarked key →
            c.source.hasColumn (c.table.columnForKey m.name key) = false →
              ∃ cells, item.value = .map cells ∧
                (key, .null (m.valueType.nullLiteral?.getD SqlType.nullVarchar)) ∈ cells := by
  intro s
  obtain ⟨-, d, hrender, hsql⟩ := (execute_mem_calls_iff engine).mp hexecuted
  obtain ⟨-, -, hitems⟩ := value_render_eq_ok_iff.mp hrender
  refine ⟨d, hrender, hsql, fun column hcolumn => ?_, fun item hmem => ?_⟩
  · obtain ⟨item, hitem, hname, -⟩ := exists_item hitems (ViewState.mem_columnNames.mpr hcolumn)
    exact ⟨item, hitem, hname⟩
  · obtain ⟨column, -, hitem⟩ := exists_column hitems hmem
    exact ⟨fun label name hreads => hasColumn_of_reads htable hitem hreads,
      fun hcolumn hkept e requirements hresolve =>
        null_of_absent htable hitem hcolumn hkept hresolve,
      fun m hresolve key hkey hunmarked =>
        cell_of_absent htable hitem hresolve hkey hunmarked.bracket⟩

theorem references_of_execute_at_absent_tag :
    let c : Compiler :=
      ⟨builtIn, .ofColumns "billing.cur" .one [⟨"resource_tags_team", "varchar"⟩], .two⟩
    let request : Request := ⟨.ofList [Field.mapKey "resource_tags" "cost"]⟩
    let catalog := Catalog.ofTables ∅
    ∃ d : ViewDefinition,
      .execute d.sql ∈ c.calls Catalog.engine .fresh request catalog ∧
      ∃ item ∈ d.items, item.column = "resource_tags" ∧ ∃ cells, item.value = .map cells ∧
        ("cost", .null SqlType.nullVarchar) ∈ cells := by
  intro c request catalog
  have hrendered : (c.render (c.goal Catalog.engine .fresh request catalog)).value.isOk = true := by
    decide +kernel
  obtain ⟨d, hd⟩ := exists_render_of_isOk hrendered
  have hexecuted : .execute d.sql ∈ c.calls Catalog.engine .fresh request catalog :=
    (execute_mem_calls_iff Catalog.engine).mpr ⟨not_upToDate_fresh, d, hd, rfl⟩
  obtain ⟨d', hd', -, hitems, hspec⟩ :=
    references_of_execute c rfl Catalog.engine .fresh request catalog d.sql hexecuted
  obtain rfl : d = d' := Except.ok.inj (hd.symm.trans hd')
  have hexposed : (c.goal Catalog.engine .fresh request catalog).hasColumn "resource_tags" =
      true := by
    decide +kernel
  obtain ⟨item, hmem, hcolumn⟩ := hitems "resource_tags" hexposed
  obtain ⟨-, -, hcells⟩ := hspec item hmem
  rw [hcolumn] at hcells
  have habsent : c.source.hasColumn (c.table.columnForKey "resource_tags" "cost") = false := by
    rw [FieldTable.columnForKey_builtIn]
    decide +kernel
  refine ⟨d, hexecuted, item, hmem, hcolumn, ?_⟩
  exact hcells ⟨"resource_tags", .varchar⟩ (by decide +kernel) "cost" (by decide +kernel)
    ⟨by decide +kernel, by decide +kernel⟩ habsent

/-- The exception is a real one: a map column that the source lacks is handed on to the statement,
although its type is known and has a NULL. -/
theorem dangling_map_column :
    let c : Compiler :=
      ⟨builtIn, .ofColumns "billing.cur" .two [⟨"bill_payer_account_id", "varchar"⟩], .one⟩
    let known : Snapshot :=
      .compiled (ViewState.empty.insertColumn "resource_tags" (some (.map .varchar)))
    let request : Request := ⟨.ofList [Field.plain "bill_payer_account_id"]⟩
    let catalog := Catalog.ofTables ∅
    ∃ d, (c.render (c.goal Catalog.engine known request catalog)).value = .ok d ∧
      .execute d.sql ∈ c.calls Catalog.engine known request catalog ∧
      ∃ item ∈ d.items, item.Reads "resource_tags" "resource_tags" ∧ Unmarked "resource_tags" ∧
        c.source.hasColumn "resource_tags" = false ∧
        c.targetType? (c.goal Catalog.engine known request catalog) "resource_tags" =
          some (.map .varchar) := by
  intro c known request catalog
  have hstale : ¬ c.UpToDate known request := by
    rintro ⟨s, hs, hcontains⟩
    obtain rfl := Snapshot.compiled.inj hs
    have hmissing : (ViewState.empty.insertColumn "resource_tags" (some (.map .varchar))).covers
        (c.requested request) = false := by
      decide +kernel
    rw [ViewState.covers_iff.mpr hcontains] at hmissing
    cases hmissing
  have hrender : (c.render (c.goal Catalog.engine known request catalog)).value =
      .ok ⟨"billing.cur1_proxy",
        [⟨"bill_payer_account_id", .expr (.column "bill_payer_account_id")⟩,
          ⟨"resource_tags", .expr (.column "resource_tags")⟩], "billing.cur"⟩ := by
    decide +kernel
  refine ⟨_, hrender, (execute_mem_calls_iff Catalog.engine).mpr ⟨hstale, _, hrender, rfl⟩,
    ⟨"resource_tags", .expr (.column "resource_tags")⟩, by simp, ?_, ?_, ?_, ?_⟩
  · exact .expr rfl (by decide)
  · exact ⟨by decide +kernel, by decide +kernel⟩
  · decide +kernel
  · decide +kernel

end Compiler
end CostView
