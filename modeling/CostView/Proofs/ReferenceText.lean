import CostView.Proofs.CatalogCalls
import CostView.Proofs.ColumnText
import CostView.Proofs.Resolutions

/-!
# How a definition writes its source columns

A source column is written in three places of a view: as the column of the same name, as the column
behind a field that has another name, and as a value of an assembled map.  The first two are
expressions, the third is a reference, and these are two writers.  Both write a text that is read
back as the column and both put a name that needs quotes between quotes, but only the expressions
quote a name that is sensitive.
-/

namespace CostView

namespace Column

variable {name : String}

/-- A name is never its own text between quotes. -/
theorem ne_quoted (name : String) : name ≠ quoted name := by
  intro h
  have hlonger := Text.Quoted.length_lt_length_enclose '"' name.toList
  have hlength := congrArg (fun text => text.toList.length) h
  simp only [quoted, String.toList_ofList] at hlength
  omega

/-- The expression of a column is written between quotes if its name is sensitive or needs them. -/
theorem sql_expr (name : String) :
    (expr name).sql = if isSensitive name || needsQuoting name then quoted name else name := by
  rw [expr]
  split
  · rw [Expr.sql, Expr.print, quoted]
  · rw [Expr.sql, Expr.print, String.ofList_toList]

/-- The expression of a column is read back as the column. -/
theorem exists_parse_sql_expr (name : String) :
    ∃ e, Expr.parse (expr name).sql = .ok e ∧ e.column? = some name := by
  rw [sql_expr]
  split
  · exact exists_parse_quoted name
  · next h =>
      rw [Bool.or_eq_true, not_or, Bool.not_eq_true, Bool.not_eq_true] at h
      exact ⟨_, Expr.parse_plain h.2, rfl⟩

/-- Where a definition writes a source column: as itself, behind a field of another name, or as a
value of an assembled map. -/
inductive Site where
  | passed
  | renamed
  | cell
deriving DecidableEq

/-- The text of a source column, by where it stands. -/
def textAt (name : String) : Site → String
  | .passed | .renamed => (expr name).sql
  | .cell => reference name

variable {site site' : Site}

theorem exists_parse_textAt (name : String) (site : Site) :
    ∃ e, Expr.parse (textAt name site) = .ok e ∧ e.column? = some name := by
  cases site with
  | passed => exact exists_parse_sql_expr name
  | renamed => exact exists_parse_sql_expr name
  | cell => exact exists_parse_reference name

/-- A column stands between quotes if its name needs them, or is sensitive and stands outside of
maps. -/
theorem textAt_eq (name : String) (site : Site) :
    textAt name site =
      if needsQuoting name = true ∨ isSensitive name = true ∧ site ≠ .cell then quoted name
      else name := by
  cases site with
  | passed => simp [textAt, sql_expr, or_comm]
  | renamed => simp [textAt, sql_expr, or_comm]
  | cell => simp [textAt, reference]

theorem textAt_eq_quoted_iff : textAt name site = quoted name ↔
    needsQuoting name = true ∨ isSensitive name = true ∧ site ≠ .cell := by
  rw [textAt_eq]
  split
  · next h => exact iff_of_true rfl h
  · next h => exact iff_of_false (ne_quoted name) h

/-- The two writers differ on the names that are sensitive and do not need quotes, and on no
other. -/
theorem textAt_eq_textAt_iff : textAt name site = textAt name site' ↔
    (site = .cell ↔ site' = .cell) ∨ needsQuoting name = true ∨ isSensitive name = false := by
  constructor
  · -- Written alike, both are quoted or neither is.
    intro h
    have hboth : textAt name site = quoted name ↔ textAt name site' = quoted name := by rw [h]
    rw [textAt_eq_quoted_iff, textAt_eq_quoted_iff] at hboth
    rw [← Bool.not_eq_true (isSensitive name)]
    tauto
  · rintro (hsite | hneeds | hplain)
    · simp only [textAt_eq, ne_eq, hsite]
    · simp only [textAt_eq, hneeds, true_or]
    · simp only [textAt_eq, hplain, Bool.false_eq_true, false_and]

end Column

namespace Compiler

open Column (Site textAt quoted needsQuoting isSensitive)

variable {c c' : Compiler} {s s' : ViewState} {d d' : ViewDefinition} {name text text' : String}
  {site site' : Site}

/-- A text with which a definition writes a source column. -/
inductive Writes (c : Compiler) (d : ViewDefinition) (name : String) : Site → String → Prop
  | passed {item : SelectItem} {e : Expr} (same : c.source.generation = c.target)
      (listed : item ∈ d.items) (named : item.column = name) (holds : item.value = .expr e) :
      Writes c d name .passed e.sql
  | renamed {item : SelectItem} {entry : FieldEntry} {e : Expr}
      (flat : c.source.generation = .one) (mapped : c.target = .two) (listed : item ∈ d.items)
      (plain : c.table.mapField? item.column = none)
      (behind : c.table.entryOfColumn? item.column = some entry) (named : entry.column = name)
      (holds : item.value = .expr e) :
      Writes c d name .renamed e.sql
  | cell {item : SelectItem} {cells : List (String × Cell)} {key : String}
      (listed : item ∈ d.items) (holds : item.value = .map cells)
      (valued : (key, .column name) ∈ cells) :
      Writes c d name .cell (Cell.column name).text

/-- What a definition writes for a column is the text of its place. -/
theorem Writes.eq_textAt (h : c.Writes d name site text) (hrender : (c.render s).value = .ok d) :
    text = textAt name site := by
  obtain ⟨-, -, hitems⟩ := value_render_eq_ok_iff.mp hrender
  -- An expression in the view is the one that its column resolves to.
  have hholds {item : SelectItem} {e : Expr} {own : String} (hitem : item ∈ d.items)
      (hvalue : item.value = .expr e)
      (hresolve : (c.crosswalk.resolve item.column).value = .ok (Crosswalk.passThrough own)) :
      e = Column.expr own := by
    obtain ⟨column, -, rfl, resolution, hown, hyields⟩ := exists_column hitems hitem
    obtain rfl := Except.ok.inj (hresolve.symm.trans hown)
    rw [hvalue] at hyields
    cases hyields
    rfl
  cases h with
  | passed same listed named holds =>
      obtain rfl := hholds listed holds (Crosswalk.value_resolve_same same)
      rw [named]
      rfl
  | renamed flat mapped listed plain behind named holds =>
      obtain rfl := hholds listed holds
        ((Crosswalk.value_resolve_toMap_eq_ok_iff flat mapped).mpr
          (.inr ⟨plain, _, behind, rfl⟩))
      rw [named]
      rfl
  | cell => rfl

/-- Wherever definitions write a source column, the text is read back as that column, it is quoted
if the name needs quotes or is sensitive and stands outside of maps, and so two places write it
alike unless one of them is in a map and the name is sensitive only. -/
theorem reference_text_iff (hd : (c.render s).value = .ok d) (hd' : (c'.render s').value = .ok d')
    (h : c.Writes d name site text) (h' : c'.Writes d' name site' text') :
    (∃ e, Expr.parse text = .ok e ∧ e.column? = some name) ∧
      (text = quoted name ∨ text = name) ∧
      (text = quoted name ↔
        needsQuoting name = true ∨ isSensitive name = true ∧ site ≠ .cell) ∧
      (text = text' ↔ (site = .cell ↔ site' = .cell) ∨ needsQuoting name = true ∨
        isSensitive name = false) := by
  obtain rfl := h.eq_textAt hd
  obtain rfl := h'.eq_textAt hd'
  refine ⟨Column.exists_parse_textAt name site, ?_, Column.textAt_eq_quoted_iff,
    Column.textAt_eq_textAt_iff⟩
  rw [Column.textAt_eq]
  split
  · exact Or.inl rfl
  · exact Or.inr rfl

/-- A view of one key of one map column, whose source column exists. -/
theorem value_render_key {source : SourceTable} {m : MapField} {key view column : String}
    (hm : FieldTable.builtIn.mapField? m.name = some m) (hflat : source.generation = .one)
    (hview : viewName ⟨.builtIn, source, .two⟩ = view) (hcolumns : s.columnNames = [m.name])
    (hkeys : (s.keysOf m.name).toList = [key]) (hcolumn : flatColumn m.name key = column)
    (hthere : source.hasRequirement column = true) :
    (render ⟨.builtIn, source, .two⟩ s).value =
      .ok ⟨view, [⟨m.name, .map [(key, .column column)]⟩], source.name⟩ := by
  have hresolve : ((crosswalk ⟨.builtIn, source, .two⟩).resolve m.name).value =
      .ok (.assembly m) :=
    (Crosswalk.value_resolve_toMap_eq_ok_iff hflat rfl).mpr (.inl ⟨m, hm, rfl⟩)
  have hkeyed : s.keysOf m.name ≠ ∅ := by
    intro hnone
    rw [hnone] at hkeys
    cases hkeys
  have hyields := @Yields.map ⟨.builtIn, source, .two⟩ s m.name m hkeyed
  simp only [hkeys, List.map_cons, List.map_nil, assembledCell, FieldTable.columnForKey_builtIn,
    hcolumn, hthere, if_true] at hyields
  refine value_render_eq_ok_iff.mpr ⟨hview.symm, rfl, ?_⟩
  rw [hcolumns]
  exact .cons ⟨rfl, _, hresolve, hyields⟩ .nil

/-- A tag with a colon in its name, in a view of either layout. -/
theorem reference_text_at_marked_tag :
    let source : SourceTable :=
      .ofColumns "billing.cur" .one [⟨"resource_tags_user:team", "varchar"⟩]
    let assembled : ViewDefinition := ⟨"billing.cur2_proxy",
      [⟨"resource_tags", .map [("user:team", .column "resource_tags_user:team")]⟩], "billing.cur"⟩
    let flat : ViewDefinition := ⟨"billing.cur1_proxy",
      [⟨"resource_tags_user:team", .expr (.quoted "resource_tags_user:team")⟩], "billing.cur"⟩
    ∃ s s', (render ⟨.builtIn, source, .two⟩ s).value = .ok assembled ∧
      (render ⟨.builtIn, source, .one⟩ s').value = .ok flat ∧
      (∃ e, Expr.parse (Cell.column "resource_tags_user:team").text = .ok e ∧
        e.column? = some "resource_tags_user:team") ∧
      (Cell.column "resource_tags_user:team").text = quoted "resource_tags_user:team" ∧
      (Cell.column "resource_tags_user:team").text =
        (Expr.quoted "resource_tags_user:team").sql := by
  intro source assembled flat
  let s : ViewState :=
    (ViewState.empty.insertColumn "resource_tags" none).insertKeys "resource_tags" ["user:team"]
  let s' : ViewState := ViewState.empty.insertColumn "resource_tags_user:team" none
  have hassembled : (render ⟨.builtIn, source, .two⟩ s).value = .ok assembled := by
    refine value_render_key (m := ⟨"resource_tags", .varchar⟩) ?_ rfl ?_ ?_ ?_ ?_ ?_ <;>
      decide +kernel
  have hflat : (render ⟨.builtIn, source, .one⟩ s').value = .ok flat := by
    decide +kernel
  obtain ⟨hread, -, hquoted, halike⟩ := reference_text_iff hassembled hflat
    (.cell List.mem_cons_self rfl List.mem_cons_self)
    (.passed rfl List.mem_cons_self rfl rfl)
  exact ⟨s, s', hassembled, hflat, hread, hquoted.mpr (Or.inl (by decide +kernel)),
    halike.mpr (Or.inr (Or.inl (by decide +kernel)))⟩

/-- A tag that is named like an interval is sensitive, and stands bare as a value of the map of tags
only. -/
theorem interval_tag_bare :
    let name := "resource_tags_start_interval"
    let source : SourceTable := .ofColumns "billing.cur" .one [⟨name, "varchar"⟩]
    let tags : Compiler := ⟨.builtIn, source, .two⟩
    let columns : Compiler := ⟨.builtIn, source, .one⟩
    let catalog := Catalog.ofTables ∅
    ∃ d d', (tags.render (tags.goal Catalog.engine .fresh
          ⟨.ofList [Field.mapKey "resource_tags" "start_interval"]⟩ catalog)).value = .ok d ∧
      (columns.render (columns.goal Catalog.engine .fresh
          ⟨.ofList [Field.plain name]⟩ catalog)).value = .ok d' ∧
      tags.Writes d name .cell (Cell.column name).text ∧ (Cell.column name).text = name ∧
      columns.Writes d' name .passed (Expr.quoted name).sql ∧
      (Expr.quoted name).sql = quoted name ∧ isSensitive name = true ∧ name ≠ quoted name := by
  intro name source tags columns catalog
  let d : ViewDefinition := ⟨"billing.cur2_proxy",
    [⟨"resource_tags", .map [("start_interval", .column name)]⟩], "billing.cur"⟩
  let d' : ViewDefinition :=
    ⟨"billing.cur1_proxy", [⟨name, .expr (.quoted name)⟩], "billing.cur"⟩
  have htags : (tags.render (tags.goal Catalog.engine .fresh
      ⟨.ofList [Field.mapKey "resource_tags" "start_interval"]⟩ catalog)).value = .ok d := by
    refine value_render_key (m := ⟨"resource_tags", .varchar⟩) ?_ rfl ?_ ?_ ?_ ?_ ?_ <;>
      decide +kernel
  refine ⟨d, d', htags, by decide +kernel, ?_, by decide +kernel, ?_, rfl, by decide +kernel,
    Column.ne_quoted name⟩
  · exact .cell List.mem_cons_self rfl List.mem_cons_self
  · exact .passed rfl List.mem_cons_self rfl rfl

end Compiler
end CostView
