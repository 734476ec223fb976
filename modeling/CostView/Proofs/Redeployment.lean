import CostView.Proofs.KeySurvival

/-!
# Redeploying changes nothing

A view that was compiled and registered is compiled again, knowing only what the catalog tells of
it, and for no more than was requested before.  Then the statement is the same to the letter, for
each of the four pairs of generations and whatever view was there before.

The keys of assembled maps are read back exactly, and in all other columns they play no part.  Types
are read back only as far as their texts go, but a type that has a NULL is read back as one with the
same NULL, and nothing else of a type shows in a statement.
-/

namespace CostView

open FieldTable (builtIn)

/-! ### The view that a statement creates -/

namespace Catalog

variable {catalog : Catalog} {name view sql : String}

/-- The first word of a text is what stands between its blanks. -/
theorem takeWords_succ (n : Nat) (word : List Char) {blanks rest : List Char}
    (hblanks : ∀ a ∈ blanks, Text.isBlank a = true) (hnil : word ≠ [])
    (hword : ∀ a ∈ word, (!Text.isBlank a) = true) :
    (takeWords (n + 1) (blanks ++ (word ++ ' ' :: rest))).1 =
      word :: (takeWords n ([' '] ++ rest)).1 := by
  have hspace : Text.isBlank ' ' = true := rfl
  have hdrop : (blanks ++ (word ++ ' ' :: rest)).dropWhile Text.isBlank = word ++ ' ' :: rest := by
    rw [List.dropWhile_append_of_pos hblanks]
    cases word with
    | nil => exact absurd rfl hnil
    | cons a word =>
        have hhead : Text.isBlank a = false := by simpa using hword a List.mem_cons_self
        rw [List.cons_append, List.dropWhile_cons_of_neg (by simp [hhead])]
  have htake : (word ++ ' ' :: rest).takeWhile (!Text.isBlank ·) = word := by
    rw [List.takeWhile_append_of_pos hword,
      List.takeWhile_cons_of_neg (by simp [hspace]), List.append_nil]
  have hrest : (word ++ ' ' :: rest).dropWhile (!Text.isBlank ·) = ' ' :: rest := by
    rw [List.dropWhile_append_of_pos hword,
      List.dropWhile_cons_of_neg (by simp [hspace])]
  rw [takeWords, hdrop, htake, hrest]
  cases word with
  | nil => exact absurd rfl hnil
  | cons a word => rfl

/-- A definition creates the view that it names. -/
theorem createdView?_sql (d : ViewDefinition) (hnil : d.view.toList ≠ [])
    (hview : ∀ a ∈ d.view.toList, Text.isBlank a = false) :
    createdView? d.sql = some d.view := by
  have hcreate : ("CREATE OR REPLACE VIEW " : String).toList =
      ['C', 'R', 'E', 'A', 'T', 'E'] ++ ' ' :: (['O', 'R'] ++ ' ' ::
        (['R', 'E', 'P', 'L', 'A', 'C', 'E'] ++ ' ' :: (['V', 'I', 'E', 'W'] ++ [' ']))) := by
    simp
  have hselect : (" AS SELECT " : String).toList =
      ' ' :: ['A', 'S', ' ', 'S', 'E', 'L', 'E', 'C', 'T', ' '] := by
    simp
  have hsql : d.sql.toList = _ := MapKeys.toList_around
  rw [hcreate, hselect] at hsql
  generalize (", ".toList.intercalate _ ++ _ : List Char) = rest at hsql
  have hspace : ∀ a ∈ [' '], Text.isBlank a = true := List.all_eq_true.mp rfl
  have hwords : (takeWords 5 d.sql.toList).1 =
      [['C', 'R', 'E', 'A', 'T', 'E'], ['O', 'R'], ['R', 'E', 'P', 'L', 'A', 'C', 'E'],
        ['V', 'I', 'E', 'W'], d.view.toList] := by
    rw [hsql, List.append_assoc, List.append_assoc, List.append_assoc]
    have hnone : ∀ a ∈ [], Text.isBlank a = true := by simp
    refine (takeWords_succ 4 ['C', 'R', 'E', 'A', 'T', 'E'] hnone (by simp)
      (List.all_eq_true.mp rfl)).trans ?_
    refine congrArg (List.cons _) ((takeWords_succ 3 ['O', 'R'] hspace (by simp)
      (List.all_eq_true.mp rfl)).trans ?_)
    refine congrArg (List.cons _) ((takeWords_succ 2 ['R', 'E', 'P', 'L', 'A', 'C', 'E'] hspace
      (by simp) (List.all_eq_true.mp rfl)).trans ?_)
    refine congrArg (List.cons _) ((takeWords_succ 1 ['V', 'I', 'E', 'W'] hspace (by simp)
      (List.all_eq_true.mp rfl)).trans ?_)
    exact congrArg (List.cons _) (takeWords_succ 0 d.view.toList hspace hnil (by simpa using hview))
  rw [createdView?, hwords]
  dsimp only
  rw [if_pos (by decide), String.ofList_toList]

/-- A view that is created keeps the columns it had and has the statement for its text. -/
theorem getElem?_afterStatement (hcreated : createdView? sql = some view) :
    (catalog.afterStatement sql).tables[view]? =
      some ⟨(catalog.tables[view]?).elim [] CatalogTable.columns, some sql⟩ := by
  rw [afterStatement, hcreated]
  exact Std.ExtTreeMap.getElem?_insert_self

/-- No other table is touched. -/
theorem getElem?_afterStatement_of_ne (hcreated : createdView? sql = some view)
    (hne : name ≠ view) : (catalog.afterStatement sql).tables[name]? = catalog.tables[name]? := by
  rw [afterStatement, hcreated]
  show (catalog.tables.insert view _)[name]? = _
  rw [Std.ExtTreeMap.getElem?_insert, if_neg (by simpa using hne.symm)]

end Catalog

/-- What is loaded of a source depends on its table alone. -/
theorem SourceTable.result_load_congr {catalog later : Catalog} {name : String}
    (h : later.tables[name]? = catalog.tables[name]?) (generation : Option Generation)
    (table : FieldTable) :
    ((load Catalog.engine name generation table).result later).1 =
      ((load Catalog.engine name generation table).result catalog).1 := by
  have hload (world : Catalog) : ((load Catalog.engine name generation table).result world).1 =
      (((Catalog.engine.listColumns name).result world).1).map fun columns =>
        ofColumns name (generation.getD (detectGeneration columns table)) columns := by
    rw [load, Action.result_bind]
    rcases ((Catalog.engine.listColumns name).result world).1 with e | columns
    · rfl
    · cases generation <;> rfl
  have hcolumns : ((Catalog.engine.listColumns name).result later).1 =
      ((Catalog.engine.listColumns name).result catalog).1 := by
    cases htable : catalog.tables[name]? with
    | none =>
        rw [Catalog.result_listColumns_of_none htable,
          Catalog.result_listColumns_of_none (h.trans htable)]
    | some table =>
        rw [Catalog.result_listColumns_of_some htable,
          Catalog.result_listColumns_of_some (h.trans htable)]
  rw [hload, hload, hcolumns]

namespace Compiler

variable {c : Compiler} {s : ViewState} {d : ViewDefinition} {column key : String}

/-! ### What is read back of a registered view -/

/-- The columns of a registered view are read back with the types that their texts name. -/
theorem getElem?_readBack_register
    (hlowered : ∀ n, s.hasColumn n = true → Text.lowered n = n) (catalog : Catalog) :
    (c.readBack (c.register ⟨some d, .compiled (c.recordTypes s)⟩ catalog)).columns[column]? =
      if s.hasColumn column = true then some ((c.targetType? s column).bind SqlType.reread?)
      else none := by
  have hread : c.readBack (c.register ⟨some d, .compiled (c.recordTypes s)⟩ catalog) = _ :=
    ViewState.introspect_of_registered (getElem?_register d _ catalog)
  have hnames : ∀ n, (c.recordTypes s).hasColumn n = true → Text.lowered n = n := by
    intro n hn
    rw [hasColumn_recordTypes] at hn
    exact hlowered n hn
  rw [hread, ViewState.columns_withKeys, ViewState.getElem?_reported_infos hnames,
    getElem?_recordTypes]
  split <;> rfl

theorem hasColumn_readBack_register
    (hlowered : ∀ n, s.hasColumn n = true → Text.lowered n = n) (catalog : Catalog) :
    (c.readBack (c.register ⟨some d, .compiled (c.recordTypes s)⟩ catalog)).hasColumn column =
      s.hasColumn column := by
  rw [Bool.eq_iff_iff, ← ViewState.getElem?_ne_none_iff, getElem?_readBack_register hlowered]
  by_cases hcolumn : s.hasColumn column = true <;> simp [hcolumn]

/-- A column whose type has a NULL has a type with the same NULL afterwards. -/
theorem exists_targetType?_readBack_register
    (hlowered : ∀ n, s.hasColumn n = true → Text.lowered n = n) (catalog : Catalog)
    {xs : List Exposure} {type : SqlType} {literal : String}
    (htype : c.targetType? s column = some type) (hliteral : type.nullLiteral? = some literal) :
    ∃ own, c.targetType? ((c.readBack
        (c.register ⟨some d, .compiled (c.recordTypes s)⟩ catalog)).extend xs) column = some own ∧
      own.nullLiteral? = some literal := by
  have hslot : (c.readBack
      (c.register ⟨some d, .compiled (c.recordTypes s)⟩ catalog)).columns[column]? = _ :=
    getElem?_readBack_register hlowered catalog
  rw [targetType?_extend]
  cases hdeclared : c.table.declaredType? c.target column with
  | some declared =>
      rw [targetType?, hdeclared] at htype ⊢
      exact ⟨type, htype, hliteral⟩
  | none =>
      by_cases hcolumn : s.hasColumn column = true
      · obtain ⟨own, hown, hsame⟩ := SqlType.exists_reread?_of_nullLiteral? hliteral
        rw [if_pos hcolumn, htype, Option.bind_some, hown] at hslot
        refine ⟨own, ?_, hsame⟩
        rw [targetType?, hdeclared, ViewState.columnType?, hslot]
        rfl
      · -- Nothing is known of a column that is not exposed, neither then nor afterwards.
        rw [if_neg hcolumn] at hslot
        have hnone : s.columnType? column = none := by
          by_contra hknown
          exact hcolumn (ViewState.hasColumn_of_columnType?_ne_none hknown)
        refine ⟨type, ?_, hliteral⟩
        rw [targetType?, hdeclared, hnone] at htype
        rw [targetType?, hdeclared, ViewState.columnType?, hslot]
        exact htype

/-- What was rendered is rendered again from what is read back of it, and from more of the same. -/
theorem value_render_readBack_register (htable : c.table = builtIn)
    (hname : Settings.isTableName c.source.name = true)
    (hlowered : ∀ n, s.hasColumn n = true → Text.lowered n = n) (hkeyed : s.WellKeyed)
    (hkeys : ∀ n, ∀ key ∈ s.keysOf n, ']' ∉ key.toList)
    (hrender : (c.render s).value = .ok d) (catalog : Catalog) {xs : List Exposure}
    (hxs : ∀ x ∈ xs, s.contains x = true) :
    (c.render ((c.readBack
      (c.register ⟨some d, .compiled (c.recordTypes s)⟩ catalog)).extend xs)).value = .ok d := by
  refine value_render_eq_ok_of_transfer (fun n => ?_) (fun n value hvalue => ?_) hrender
  · rw [Bool.eq_iff_iff, ViewState.hasColumn_extend, hasColumn_readBack_register hlowered,
      or_iff_left_iff_imp]
    rintro ⟨x, hx, rfl⟩
    exact (ViewState.contains_iff.mp (hxs x hx)).1
  · -- Keys show only where a map is assembled, and those of assembled maps are in the text.
    refine hvalue.transfer (fun type literal => exists_targetType?_readBack_register hlowered
      catalog) fun m hm => ?_
    obtain ⟨hsource, htarget, hmap⟩ := Crosswalk.of_value_resolve_eq_assembly hm
    have hassembles : c.Assembles := ⟨⟨htable, hsource, htarget⟩, hname⟩
    have hfield : builtIn.isMapField n = true := by
      rw [← htable]
      exact FieldTable.isMapField_iff.mpr ⟨m, hmap⟩
    obtain ⟨-, hread⟩ := hassembles.introspect_register hkeys hrender catalog
    refine Std.ExtTreeSet.ext_mem fun key => ?_
    rw [ViewState.mem_keysOf_extend]
    constructor
    · rintro (hold | hnew)
      · exact ((hread n key).mp hold).2.2
      · exact (ViewState.contains_iff.mp (hxs _ hnew)).2 key rfl
    · intro hkey
      exact Or.inl ((hread n key).mpr ⟨hfield, hkeyed n key hkey, hkey⟩)

/-! ### Deploying twice -/

/-- A key that a field makes a view expose is the key of the field. -/
theorem tail_of_key_exposureOf {f : Field} (h : (c.crosswalk.exposureOf f).key = some key) :
    f.tail = some key := by
  cases f with
  | plain name => cases h
  | mapKey container own =>
      rw [Crosswalk.exposureOf] at h
      cases htarget : c.crosswalk.target with
      | one =>
          rw [htarget] at h
          cases h
      | two =>
          rw [htarget] at h
          exact h

/-- What a readable request is compiled to, whatever was there before: its columns have names in
lower case, and its keys have no closing bracket. -/
theorem spec_extend_readBack {request : Request} (hreadable : ∀ f ∈ request.fields, f.Readable)
    (catalog : Catalog) :
    let s := (c.readBack catalog).extend (c.requested request)
    (∀ n, s.hasColumn n = true → Text.lowered n = n) ∧ s.WellKeyed ∧
      ∀ n, ∀ key ∈ s.keysOf n, ']' ∉ key.toList := by
  refine ⟨fun n hn => ?_, ViewState.WellKeyed.extend (ViewState.wellKeyed_introspect _ _ _ _),
    fun n key hkey => ?_⟩
  · rcases ViewState.hasColumn_extend.mp hn with hold | ⟨x, hx, rfl⟩
    · exact Catalog.lowered_of_readBack hold
    · obtain ⟨f, hf, rfl⟩ := mem_requested.mp hx
      exact (hreadable f hf).lowered_exposure c.crosswalk
  · rcases ViewState.mem_keysOf_extend.mp hkey with hold | hnew
    · exact Catalog.notMem_of_readBack hold
    · obtain ⟨f, hf, hexposure⟩ := mem_requested.mp hnew
      exact (hreadable f hf).tail key (tail_of_key_exposureOf (congrArg Exposure.key hexposure))

/-- Over a source with a plain name, a definition of the view creates the view. -/
theorem createdView?_of_view (hname : Settings.isTableName c.source.name = true)
    (hview : d.view = c.viewName) : Catalog.createdView? d.sql = some c.viewName := by
  rw [← hview]
  refine Catalog.createdView?_sql d ?_ ?_
  · rw [hview]
    exact viewName_ne_nil
  · rw [hview]
    exact fun a => isBlank_of_mem_viewName hname

/-- Deploying a view touches no other table. -/
theorem getElem?_register_of_ne (hname : Settings.isTableName c.source.name = true)
    (hview : d.view = c.viewName) {name : String} (hne : name ≠ c.viewName) (catalog : Catalog) :
    (c.register ⟨some d, .compiled s⟩ (catalog.afterStatement d.sql)).tables[name]? =
      catalog.tables[name]? := by
  show ((catalog.afterStatement d.sql).tables.insert c.viewName _)[name]? = _
  rw [Std.ExtTreeMap.getElem?_insert, if_neg (by simpa using hne.symm),
    Catalog.getElem?_afterStatement_of_ne (createdView?_of_view hname hview) hne]

/-- A view that was compiled without a snapshot and registered is compiled without a snapshot to the
same statement again, for all that was requested or for less.  The source is the same then, since
only the view was touched. -/
theorem compile_again (c : Compiler) (htable : c.table = builtIn)
    (hname : Settings.isTableName c.source.name = true) (hdistinct : c.source.name ≠ c.viewName)
    (request : Request) (hreadable : ∀ f ∈ request.fields, f.Readable) (catalog between : Catalog)
    (o : Outcome)
    (hcompiled : (c.compile Catalog.engine .fresh request).result catalog = (.ok o, between)) :
    let later := c.register o between
    (∀ generation,
      ((SourceTable.load Catalog.engine c.source.name generation c.table).result later).1 =
        ((SourceTable.load Catalog.engine c.source.name generation c.table).result catalog).1) ∧
    ∃ sql, o.sql? = some sql ∧
      ∀ again : Request, (∀ f ∈ again.fields, f ∈ request.fields) →
        ∃ p last, (c.compile Catalog.engine .fresh again).result later = (.ok p, last) ∧
          p.sql? = some sql := by
  intro later
  rcases (result_compile_eq_ok_iff Catalog.engine).mp hcompiled with
    ⟨⟨s, hs, -⟩, -⟩ | ⟨-, _, _, d, hstart, hrender, hexecute, rfl⟩
  · cases hs
  · rw [result_start] at hstart
    obtain ⟨rfl, rfl⟩ := Prod.mk.inj hstart
    change (c.render ((c.readBack catalog).extend _)).value = _ at hrender
    obtain ⟨haccepting, rfl⟩ := Catalog.result_execute_eq_ok_iff.mp hexecute
    obtain ⟨hview, -, -⟩ := value_render_eq_ok_iff.mp hrender
    obtain ⟨hlowered, hkeyed, hkeys⟩ := spec_extend_readBack (c := c) hreadable catalog
    refine ⟨fun generation => SourceTable.result_load_congr
      (getElem?_register_of_ne hname hview hdistinct catalog) generation c.table, d.sql, rfl,
      fun again hagain => ?_⟩
    have hcontained : ∀ x ∈ c.requested again,
        ((c.readBack catalog).extend (c.requested request)).contains x = true := by
      intro x hx
      obtain ⟨f, hf, rfl⟩ := mem_requested.mp hx
      refine (ViewState.WellKeyed.contains_extend
        (ViewState.wellKeyed_introspect _ _ _ _)).mpr (Or.inr ⟨_, ?_, Or.inl rfl⟩)
      exact mem_requested.mpr ⟨f, hagain f hf, rfl⟩
    have hrendered := value_render_readBack_register htable hname hlowered hkeyed hkeys hrender
      (catalog.afterStatement d.sql) hcontained
    have hlater : later.refusal = none := by
      rw [refusal_register, Catalog.refusal_afterStatement, haccepting]
    have hcompiledAgain : (c.compile Catalog.engine .fresh again).result later = _ :=
      result_compile_fresh hlater hrendered
    exact ⟨_, _, hcompiledAgain, rfl⟩

theorem compile_again_at_assembled_tag :
    let columns : List ColumnInfo := [⟨"resource_tags_user_team", "varchar"⟩]
    let c : Compiler := ⟨builtIn, .ofColumns "billing.cur" .one columns, .two⟩
    let tag := Field.mapKey "resource_tags" "user_team"
    let request : Request := ⟨.ofList [tag, .plain "product"]⟩
    let catalog := (Catalog.ofTables ∅).addTable "billing.cur" columns
    Settings.isTableName c.source.name = true ∧ c.source.name ≠ c.viewName ∧ tag.Readable ∧
      (Field.plain "product").Readable ∧ ∃ o between sql p last,
        (c.compile Catalog.engine .fresh request).result catalog = (.ok o, between) ∧
          o.sql? = some sql ∧
          (c.compile Catalog.engine .fresh ⟨.ofList [tag]⟩).result (c.register o between) =
            (.ok p, last) ∧ p.sql? = some sql := by
  intro columns c tag request catalog
  have hname : Settings.isTableName c.source.name = true := by decide +kernel
  have hdistinct : c.source.name ≠ c.viewName := by decide +kernel
  have htag : tag.Readable :=
    ⟨⟨"resource_tags['user_team']", by decide +kernel⟩, by decide +kernel⟩
  have hproduct : (Field.plain "product").Readable :=
    ⟨⟨"product", by decide +kernel⟩, by decide +kernel⟩
  have hreadable : ∀ f ∈ request.fields, f.Readable := by
    intro f hf
    rw [Std.ExtTreeSet.mem_ofList, List.contains_iff_mem] at hf
    simp only [List.mem_cons, List.not_mem_nil, or_false] at hf
    rcases hf with rfl | rfl
    · exact htag
    · exact hproduct
  have hok : ((c.compile Catalog.engine .fresh request).result catalog).1.isOk = true := by
    decide +kernel
  rcases hcompiled : (c.compile Catalog.engine .fresh request).result catalog with ⟨e | o, between⟩
  · rw [hcompiled] at hok
    cases hok
  · obtain ⟨-, sql, hsql, hagain⟩ :=
      compile_again c rfl hname hdistinct request hreadable catalog between o hcompiled
    have hless : ∀ f ∈ (Std.ExtTreeSet.ofList [tag] : Std.ExtTreeSet Field),
        f ∈ request.fields := by
      intro f hf
      rw [Std.ExtTreeSet.mem_ofList, List.contains_iff_mem, List.mem_singleton] at hf
      rw [Std.ExtTreeSet.mem_ofList, List.contains_iff_mem, hf]
      exact List.mem_cons_self
    obtain ⟨p, last, hlast, hsame⟩ := hagain ⟨.ofList [tag]⟩ hless
    exact ⟨hname, hdistinct, htag, hproduct, o, between, sql, p, last, rfl, hsql, hlast, hsame⟩

end Compiler
end CostView
