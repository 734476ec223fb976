import CostView.Proofs.Redeployment
import CostView.Proofs.SettingsOverride

/-!
# Where a view is placed

The name of a view is read three times: it is made out of the name of the source, it is written into
a statement, and the catalog reads it from the words of that statement.  The three agree as long as
the name is one word, and that is what the rules for settings are for.  They are checked setting by
setting and not again where settings are laid over others or a table is put into its database, so it
has to be shown that the name that comes out is still a plain one.

With that a statement creates the view that it is meant for, and no other table is touched.
-/

namespace CostView

/-! ### Names that are joined -/

namespace Settings

/-- Two names joined by a point are a name. -/
theorem isTableName_append {a b : String} (ha : isTableName a = true) (hb : isTableName b = true) :
    isTableName (a ++ "." ++ b) = true := by
  have hlist : (a ++ "." ++ b).toList = a.toList ++ '.' :: b.toList := by simp
  rw [isTableName, hlist, Text.splitAt_append, List.all_append, Bool.and_eq_true]
  exact ⟨ha, hb⟩

/-! ### Settings of every origin -/

/-- Settings as a run can have them: typed, out of an environment or a file, or laid one over the
other. -/
inductive Obtained : Settings → Prop
  | arguments {typed : Typed} {s : Settings} (given : ofArguments typed = .ok s) : Obtained s
  | environment {env : Environment} {s : Settings} (given : ofEnvironment env = .ok s) : Obtained s
  | file {text? : Option String} {s : Settings} (given : ofFile text? = .ok s) : Obtained s
  | merge {s top : Settings} (below : Obtained s) (above : Obtained top) : Obtained (s.merge top)

/-- The names of the table and of the database are plain. -/
structure Named (s : Settings) : Prop where
  sourceTable : isTableName s.sourceTable = true
  database : ∀ name, s.database = some name → isTableName name = true

variable {s top : Settings} {typed : Typed}

theorem named_of_faults (h : s.faults = .none) : s.Named := by
  obtain ⟨hsource, hdatabase, -⟩ := faults_eq_none_iff.mp h
  exact ⟨hsource, hdatabase⟩

theorem named_of_validate {own : Settings} (h : own.validate = .ok s) : s.Named := by
  obtain ⟨hfaults, rfl⟩ := validate_eq_ok_iff.mp h
  exact named_of_faults hfaults

theorem named_of_ofTyped {sourceName targetName : String}
    (h : ofTyped sourceName targetName typed = .ok s) : s.Named := by
  obtain ⟨g?, target, hvalid⟩ := exists_validate_of_ofTyped h
  exact named_of_validate hvalid

/-- The overlay is not checked again, and need not be: each name in it was checked where it comes
from. -/
theorem Named.merge (hs : s.Named) (htop : top.Named) : (s.merge top).Named := by
  refine ⟨htop.sourceTable, fun name hname => ?_⟩
  cases habove : top.database with
  | none => exact hs.database name (by simpa [Settings.merge, habove] using hname)
  | some own => exact htop.database name (by simpa [Settings.merge, habove] using hname)

theorem Obtained.named (h : Obtained s) : s.Named := by
  induction h with
  | arguments given => exact named_of_ofTyped given
  | @environment env s given =>
      rw [ofEnvironment] at given
      split at given
      · cases given
      · exact named_of_ofTyped given
  | @file text? s given =>
      cases text? with
      | none => cases given
      | some text =>
          rw [ofFile, parse] at given
          split at given
          · exact named_of_validate given
          · cases given
  | merge _ _ hbelow habove => exact hbelow.merge habove

/-- In its database a table has a plain name, too. -/
theorem Named.qualifiedTable (h : s.Named) : isTableName s.qualifiedTable = true := by
  rw [Settings.qualifiedTable]
  cases hdatabase : s.database with
  | none => exact h.sourceTable
  | some database =>
      dsimp only
      split
      · exact h.sourceTable
      · exact isTableName_append (h.database database hdatabase) h.sourceTable

end Settings

namespace Compiler

variable {c : Compiler} {σ : Type}

/-! ### The name of the view -/

/-- A name is its qualifier and what follows its last point. -/
theorem exists_eq_qualifier_append (name : String) :
    ∃ table, name = qualifier name ++ table ∧ '.' ∉ table.toList ∧
      (qualifier name = "" ∨ ∃ database, qualifier name = database ++ ".") := by
  have hsplit : name.toList.rdropWhile (· ≠ '.') ++ name.toList.rtakeWhile (· ≠ '.') =
      name.toList := by
    rw [List.rdropWhile, List.rtakeWhile, ← List.reverse_append, List.takeWhile_append_dropWhile,
      List.reverse_reverse]
  have hqualifier : qualifier name = String.ofList (name.toList.rdropWhile (· ≠ '.')) := rfl
  refine ⟨String.ofList (name.toList.rtakeWhile (· ≠ '.')), ?_, fun hmem => ?_, ?_⟩
  · rw [hqualifier, ← String.ofList_append, hsplit, String.ofList_toList]
  · rw [String.toList_ofList] at hmem
    simpa using List.mem_rtakeWhile_imp hmem
  · rw [hqualifier]
    by_cases hnil : name.toList.rdropWhile (· ≠ '.') = []
    · exact Or.inl (by rw [hnil])
    · -- What is dropped ends where a point stands.
      have hpoint : (name.toList.rdropWhile (· ≠ '.')).getLast hnil = '.' := by
        simpa using List.rdropWhile_last_not (· ≠ '.') name.toList hnil
      have hconcat := List.dropLast_append_getLast hnil
      rw [hpoint] at hconcat
      refine Or.inr ⟨String.ofList (name.toList.rdropWhile (· ≠ '.')).dropLast, ?_⟩
      rw [← String.toList_inj, String.toList_append, String.toList_ofList, String.toList_ofList]
      exact hconcat.symm

/-! ### The statement that creates it -/

/-- A compilation that is not skipped executes a definition of the view, in the world that reading
the live view left. -/
theorem exists_definition_of_compile (engine : Engine σ) {snapshot : Snapshot} {request : Request}
    {world later : σ} {o : Outcome} {sql : String}
    (h : (c.compile engine snapshot request).result world = (.ok o, later))
    (hsql : o.sql? = some sql) :
    ∃ d : ViewDefinition, d.view = c.viewName ∧ d.sql = sql ∧
      (engine.execute sql).result ((c.start engine snapshot).result world).2 = (.ok (), later) := by
  rcases (result_compile_eq_ok_iff engine).mp h with ⟨-, rfl, -⟩ |
    ⟨-, s, between, d, hstart, hrender, hexecute, rfl⟩
  · cases hsql
  · obtain rfl := Option.some.inj hsql
    rw [hstart]
    exact ⟨d, (value_render_eq_ok_iff.mp hrender).1, rfl, hexecute⟩

/-- Whatever settings a run has, its names are plain and its view stands where the source does, and
a statement that it executes creates that view.  In the catalog in memory it is then found under its
name with the columns that it had before, and no other table is touched. -/
theorem view_placement {settings : Settings} (hsettings : settings.Obtained)
    (hsource : c.source.name = settings.qualifiedTable) :
    settings.Named ∧
      (∃ database table, c.source.name = database ++ table ∧ '.' ∉ table.toList ∧
        (database = "" ∨ ∃ parts, database = parts ++ ".") ∧
        c.viewName = database ++ ("cur" ++ c.target.digit ++ "_proxy")) ∧
      (∀ {σ : Type} (engine : Engine σ) (snapshot : Snapshot) (request : Request) (world later : σ)
        (o : Outcome) (sql : String),
        (c.compile engine snapshot request).result world = (.ok o, later) → o.sql? = some sql →
          Catalog.createdView? sql = some c.viewName) ∧
      ∀ (snapshot : Snapshot) (request : Request) (catalog later : Catalog) (o : Outcome)
        (sql : String),
        (c.compile Catalog.engine snapshot request).result catalog = (.ok o, later) →
          o.sql? = some sql →
            (Catalog.engine.definitionText c.viewName).result later = (.ok sql, later) ∧
            (Catalog.engine.listColumns c.viewName).result later =
              (.ok ((catalog.tables[c.viewName]?).elim [] CatalogTable.columns), later) ∧
            ∀ name, name ≠ c.viewName → later.tables[name]? = catalog.tables[name]? := by
  have hnamed := hsettings.named
  have hname : Settings.isTableName c.source.name = true := by
    rw [hsource]
    exact hnamed.qualifiedTable
  refine ⟨hnamed, ?_, ?_, ?_⟩
  · obtain ⟨table, hsplit, hpoint, hqualifier⟩ := exists_eq_qualifier_append c.source.name
    exact ⟨qualifier c.source.name, table, hsplit, hpoint, hqualifier, rfl⟩
  · intro σ engine snapshot request world later o sql hcompile hsql
    obtain ⟨d, hview, rfl, -⟩ := exists_definition_of_compile engine hcompile hsql
    exact createdView?_of_view hname hview
  · intro snapshot request catalog later o sql hcompile hsql
    obtain ⟨d, hview, rfl, hexecute⟩ := exists_definition_of_compile _ hcompile hsql
    rw [result_start] at hexecute
    obtain ⟨-, rfl⟩ := Catalog.result_execute_eq_ok_iff.mp hexecute
    have hcreated := createdView?_of_view hname hview
    have hregistered : (catalog.afterStatement d.sql).tables[c.viewName]? = _ :=
      Catalog.getElem?_afterStatement hcreated
    refine ⟨Catalog.result_definitionText_of_some hregistered rfl,
      Catalog.result_listColumns_of_some hregistered, fun name hne => ?_⟩
    exact Catalog.getElem?_afterStatement_of_ne hcreated hne

/-- A table named by an option, over a file that names a database: the view is replaced there. -/
theorem view_placement_over_file :
    let file := "source_table: old\ndatabase: lake.billing\ntarget_version: v1\n"
    let below : Settings := ⟨"old", some "lake.billing", none, .one, []⟩
    let above : Settings := ⟨"cur", none, none, .two, []⟩
    let column : ColumnInfo := ⟨"bill_payer_account_id", "varchar"⟩
    let c : Compiler := ⟨.builtIn, .ofColumns "lake.billing.cur" .one [column], .two⟩
    let catalog := ((Catalog.ofTables ∅).addTable "lake.billing.cur" [column]).addView
      "lake.billing.cur2_proxy" [column] "SELECT 1 AS bill_payer_account_id"
    Settings.ofFile (some file) = .ok below ∧
      Settings.ofArguments ⟨"cur", none, none, "2", []⟩ = .ok above ∧
      c.source.name = (below.merge above).qualifiedTable ∧ c.viewName = "lake.billing.cur2_proxy" ∧
      ∃ o later sql, (c.compile Catalog.engine .fresh ⟨∅⟩).result catalog = (.ok o, later) ∧
        o.sql? = some sql ∧ Catalog.createdView? sql = some "lake.billing.cur2_proxy" ∧
        (Catalog.engine.definitionText "lake.billing.cur2_proxy").result later = (.ok sql, later) ∧
        (Catalog.engine.listColumns "lake.billing.cur2_proxy").result later =
          (.ok [column], later) ∧
        later.tables["lake.billing.cur"]? = catalog.tables["lake.billing.cur"]? := by
  intro file below above column c catalog
  have hfile : Settings.ofFile (some file) = .ok below := by decide +kernel
  have harguments : Settings.ofArguments ⟨"cur", none, none, "2", []⟩ = .ok above := by
    decide +kernel
  have hsource : c.source.name = (below.merge above).qualifiedTable := by decide +kernel
  have hview : c.viewName = "lake.billing.cur2_proxy" := by decide +kernel
  obtain ⟨-, -, hcreated, hcatalog⟩ :=
    view_placement (.merge (.file hfile) (.arguments harguments)) hsource
  have hok : ((c.compile Catalog.engine .fresh ⟨∅⟩).result catalog).1.isOk = true := by
    decide +kernel
  rcases hcompile : (c.compile Catalog.engine .fresh ⟨∅⟩).result catalog with ⟨e | o, later⟩
  · rw [hcompile] at hok
    cases hok
  · have hexecuted : o.sql? ≠ none := by
      intro hnone
      rcases (result_compile_eq_ok_iff _).mp hcompile with ⟨hup, -⟩ | ⟨-, _, _, d, -, -, -, rfl⟩
      · exact not_upToDate_fresh hup
      · cases hnone
    obtain ⟨sql, hsql⟩ := Option.ne_none_iff_exists'.mp hexecuted
    obtain ⟨htext, hcolumns, hothers⟩ := hcatalog .fresh ⟨∅⟩ catalog later o sql hcompile hsql
    rw [hview] at htext hcolumns hothers
    have hbefore : (catalog.tables["lake.billing.cur2_proxy"]?).elim [] CatalogTable.columns =
        [column] := by
      decide +kernel
    rw [hbefore] at hcolumns
    refine ⟨hfile, harguments, hsource, hview, o, later, sql, rfl, hsql, ?_, htext, hcolumns,
      hothers "lake.billing.cur" (by decide)⟩
    rw [← hview]
    exact hcreated Catalog.engine .fresh ⟨∅⟩ catalog later o sql hcompile hsql

end Compiler
end CostView
