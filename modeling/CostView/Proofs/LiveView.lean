import CostView.Proofs.StateGrowth
import CostView.View.Introspection

/-!
# What is read back from a live view

Introspection collects the columns that the engine reports and then the keys that the text of the
view gives to those of them that may be maps.  Keys are looked for under reported columns only, so
the state that is read back is well keyed whatever the engine answers.
-/

namespace CostView

namespace Action

variable {σ α β : Type}

/-- What an action gives and the state that it leaves, without its notices. -/
def result (action : Action σ α) (world : σ) : α × σ :=
  (action world).value

@[simp] theorem result_pure (a : α) (world : σ) :
    result (pure a : Action σ α) world = (a, world) := rfl

@[simp] theorem result_bind (action : Action σ α) (f : α → Action σ β) (world : σ) :
    result (action >>= f) world =
      result (f (result action world).1) (result action world).2 := rfl

@[simp] theorem result_tell (notice : Notice) (world : σ) :
    result (tell notice : Action σ Unit) world = ((), world) := rfl

@[simp] theorem result_liftM (x : Noted α) (world : σ) :
    result (liftM x : Action σ α) world = (x.value, world) := rfl

@[simp] theorem result_get (world : σ) :
    result (get : Action σ σ) world = (world, world) := rfl

@[simp] theorem result_modify (f : σ → σ) (world : σ) :
    result (modify f : Action σ Unit) world = ((), f world) := rfl

end Action

namespace ViewState

variable {s : ViewState} {column key text : String}

/-- The state with the columns that a catalog reports. -/
def reported (columns : List ColumnInfo) : ViewState :=
  columns.foldl insertReported empty

/-- The state with the keys that a text gives to some columns. -/
def withKeys (text : String) (s : ViewState) : List String → ViewState
  | [] => s
  | column :: rest =>
    match MapKeys.parse? text column with
    | some keys => withKeys text (s.insertKeys column keys) rest
    | none => withKeys text s rest

theorem value_readAllKeys (view text : String) (s : ViewState) (columns : List String) :
    (readAllKeys view text s columns).value = withKeys text s columns := by
  induction columns generalizing s with
  | nil => rfl
  | cons column columns ih =>
      rw [readAllKeys, Noted.value_bind, ih, readKeys, withKeys]
      cases MapKeys.parse? text column <;> rfl

/-- What is read back, by what the engine answers. -/
theorem result_introspect {σ : Type} (engine : Engine σ) (table : FieldTable) (view : String)
    (world : σ) :
    (introspect engine table view).result world =
      match (engine.listColumns view).result world with
      | (.error _, world) => (empty, world)
      | (.ok columns, world) =>
        if mapColumns table columns = [] then (reported columns, world)
        else
          match (engine.definitionText view).result world with
          | (.error _, world) => (reported columns, world)
          | (.ok text, world) =>
            (withKeys (MapKeys.mergeChunks text) (reported columns) (mapColumns table columns),
              world) := by
  rw [introspect, Action.result_bind]
  rcases (engine.listColumns view).result world with ⟨_ | columns, later⟩
  · rfl
  · dsimp only
    rcases mapColumns table columns with _ | ⟨first, rest⟩
    · rfl
    · rw [if_neg (List.cons_ne_nil first rest), Action.result_bind]
      rcases (engine.definitionText view).result later with ⟨_ | text, last⟩
      · rfl
      · simp only [Action.result_liftM, value_readAllKeys]
        rfl

/-- Whatever the engine answers, the state is that of some reported columns, perhaps with the keys
that some text gives to those of them that may be maps. -/
theorem introspect_cases {σ : Type} (engine : Engine σ) (table : FieldTable) (view : String)
    (world : σ) :
    ∃ columns, ((introspect engine table view).result world).1 = reported columns ∨
      ∃ text, ((introspect engine table view).result world).1 =
        withKeys text (reported columns) (mapColumns table columns) := by
  rw [result_introspect]
  rcases (engine.listColumns view).result world with ⟨_ | columns, later⟩
  · exact ⟨[], Or.inl rfl⟩
  · refine ⟨columns, ?_⟩
    dsimp only
    split
    · exact Or.inl rfl
    · rcases (engine.definitionText view).result later with ⟨_ | text, last⟩
      · exact Or.inl rfl
      · exact Or.inr ⟨_, rfl⟩

/-! ### Reported columns -/

theorem hasColumn_foldl_insertReported (columns : List ColumnInfo) :
    (columns.foldl insertReported s).hasColumn column = true ↔
      s.hasColumn column = true ∨ ∃ c ∈ columns, Text.lowered c.name = column := by
  induction columns generalizing s with
  | nil => simp
  | cons c columns ih =>
      rw [List.foldl_cons, ih, insertReported, hasColumn_insertColumn]
      simp only [List.mem_cons, exists_eq_or_imp]
      tauto

@[simp] theorem hasColumn_reported {columns : List ColumnInfo} :
    (reported columns).hasColumn column = true ↔
      ∃ c ∈ columns, Text.lowered c.name = column := by
  rw [reported, hasColumn_foldl_insertReported]
  simp

@[simp] theorem mapKeys_reported (columns : List ColumnInfo) : (reported columns).mapKeys = ∅ := by
  have hkept (s : ViewState) : (columns.foldl insertReported s).mapKeys = s.mapKeys := by
    induction columns generalizing s with
    | nil => rfl
    | cons c columns ih => exact ih (s.insertReported c)
  exact hkept empty

@[simp] theorem keysOf_reported {columns : List ColumnInfo} :
    (reported columns).keysOf column = ∅ := by
  simp [keysOf]

/-! ### Keys of a text -/

@[simp] theorem columns_withKeys (columns : List String) :
    (withKeys text s columns).columns = s.columns := by
  induction columns generalizing s with
  | nil => rfl
  | cons first rest ih =>
      rw [withKeys]
      split
      · exact ih
      · exact ih

@[simp] theorem hasColumn_withKeys {columns : List String} :
    (withKeys text s columns).hasColumn column = s.hasColumn column := by
  simp [hasColumn]

@[simp] theorem mem_keysOf_withKeys {columns : List String} :
    key ∈ (withKeys text s columns).keysOf column ↔
      key ∈ s.keysOf column ∨
        column ∈ columns ∧ ∃ keys, MapKeys.parse? text column = some keys ∧ key ∈ keys := by
  -- The state grows column by column, so the induction is for every state.
  induction columns generalizing s with
  | nil => simp [withKeys]
  | cons first rest ih =>
      rw [withKeys, List.mem_cons]
      split
      · next keys hparse =>
          rw [ih, mem_keysOf_insertKeys]
          constructor
          · rintro ((⟨rfl, hkey⟩ | hold) | ⟨hrest, hkeys⟩)
            · exact Or.inr ⟨Or.inl rfl, keys, hparse, hkey⟩
            · exact Or.inl hold
            · exact Or.inr ⟨Or.inr hrest, hkeys⟩
          · rintro (hold | ⟨rfl | hrest, hkeys⟩)
            · exact Or.inl (Or.inr hold)
            · obtain ⟨_, hsame, hkey⟩ := hkeys
              rw [hparse] at hsame
              cases hsame
              exact Or.inl (Or.inl ⟨rfl, hkey⟩)
            · exact Or.inr ⟨hrest, hkeys⟩
      · next hparse =>
          rw [ih]
          constructor
          · rintro (hold | ⟨hrest, hkeys⟩)
            · exact Or.inl hold
            · exact Or.inr ⟨Or.inr hrest, hkeys⟩
          · rintro (hold | ⟨rfl | hrest, hkeys⟩)
            · exact Or.inl hold
            · obtain ⟨_, hsame, -⟩ := hkeys
              rw [hparse] at hsame
              cases hsame
            · exact Or.inr ⟨hrest, hkeys⟩

theorem wellKeyed_introspect {σ : Type} (engine : Engine σ) (table : FieldTable) (view : String)
    (world : σ) : ((introspect engine table view).result world).1.WellKeyed := by
  intro column key hkey
  obtain ⟨columns, hstate | ⟨text, hstate⟩⟩ := introspect_cases engine table view world
  · rw [hstate] at hkey
    simp at hkey
  · rw [hstate] at hkey ⊢
    rw [hasColumn_withKeys, hasColumn_reported]
    rcases mem_keysOf_withKeys.mp hkey with hold | ⟨hmap, -⟩
    · simp at hold
    · obtain ⟨c, hc, hname⟩ := List.mem_map.mp hmap
      exact ⟨c, List.mem_of_mem_filter hc, hname⟩

end ViewState
end CostView
