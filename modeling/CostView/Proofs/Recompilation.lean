import CostView.Proofs.Releases
import CostView.Proofs.UnitedRequests

/-!
# Compiling a view that is known

A state that a compilation has returned is settled: it is rendered as the definition that was
executed last, and the types of its columns are recorded.  So a request that it covers may as well
be compiled in full.  That comes to the same statement and to the same state.

The converse asks whether a statement that is executed ever repeats the last one.  What a request
adds is a column or a key.  A new column makes the list of columns longer.  A new key of a map that
is assembled adds two single quotes to the text and takes none away, however the arrays are cut and
whatever NULL stood there before; so neither can be made up for by anything else that is added.  A
new key of a map that is passed through from the source shows nowhere, and there statements are
repeated.
-/

namespace CostView

/-! ### Counting in joined texts -/

/-- A character that does not stand in the separator occurs as often as in the parts. -/
theorem count_intercalate {α : Type} [DecidableEq α] {a : α} {separator : List α}
    (h : a ∉ separator) (xs : List (List α)) :
    (separator.intercalate xs).count a = (xs.map (List.count a)).sum := by
  cases xs with
  | nil => simp
  | cons x xs =>
      have hparts : (xs.flatMap (separator ++ ·)).count a = (xs.map (List.count a)).sum := by
        induction xs with
        | nil => rfl
        | cons y ys ih => simp [ih, List.count_eq_zero.mpr h]
      rw [intercalate_cons_eq_flatMap, List.count_append, hparts, List.map_cons, List.sum_cons]

theorem length_intercalate {α : Type} (separator : List α) (xs : List (List α)) :
    (separator.intercalate xs).length =
      (xs.map List.length).sum + (xs.length - 1) * separator.length := by
  cases xs with
  | nil => simp
  | cons x xs =>
      have hparts : (xs.flatMap (separator ++ ·)).length =
          (xs.map List.length).sum + xs.length * separator.length := by
        induction xs with
        | nil => simp
        | cons y ys ih =>
            rw [List.flatMap_cons, List.length_append, ih, List.length_append, List.map_cons,
              List.sum_cons, List.length_cons, Nat.succ_mul]
            omega
      rw [intercalate_cons_eq_flatMap, List.length_append, hparts, List.map_cons, List.sum_cons,
        List.length_cons, Nat.add_sub_cancel, Nat.add_assoc]

/-- The number of single quotes in a text. -/
def quoteCount (text : String) : Nat := text.toList.count '\''

@[simp] theorem quoteCount_append (s t : String) :
    quoteCount (s ++ t) = quoteCount s + quoteCount t := by
  simp [quoteCount]

theorem quoteCount_joined {separator : String} (h : '\'' ∉ separator.toList)
    (texts : List String) : quoteCount (joined separator texts) = (texts.map quoteCount).sum := by
  rw [quoteCount, toList_joined, count_intercalate h, List.map_map]
  rfl

/-- However an array is cut, it holds the quotes of its elements. -/
theorem quoteCount_arrayText {separator : String} (h : '\'' ∉ separator.toList)
    (elements : List String) :
    quoteCount (arrayText separator elements) = (elements.map quoteCount).sum := by
  have hchunk (chunk : List String) :
      quoteCount ("ARRAY[" ++ joined separator chunk ++ "]") = (chunk.map quoteCount).sum := by
    have hopening : quoteCount "ARRAY[" = 0 := by decide
    have hclosing : quoteCount "]" = 0 := by decide
    rw [quoteCount_append, quoteCount_append, quoteCount_joined h, hopening, hclosing,
      Nat.zero_add, Nat.add_zero]
  have hcut (parts : List (List String)) :
      (parts.map fun part => (part.map quoteCount).sum).sum =
        (parts.flatten.map quoteCount).sum := by
    induction parts with
    | nil => rfl
    | cons part parts ih => simp [ih]
  rw [arrayText, quoteCount_joined (by decide), List.map_map]
  simp only [Function.comp_def, hchunk]
  rw [hcut, flatten_chunks chunkSize_ne_zero]

/-- A quoted text holds at least the quotes around it. -/
theorem quoteCount_quoteText_pos (key : String) : 0 < quoteCount (quoteText key) := by
  rw [quoteCount, quoteText, String.toList_ofList, List.count_pos_iff]
  exact List.mem_cons_self

/-! ### Sums over growing lists -/

section

variable {α : Type} {xs ys : List α} {f g : α → Nat}

/-- A list without repetitions is a part of every list with the same elements and more. -/
theorem exists_perm_append_of_subset (hnodup : xs.Nodup) (hsubset : xs ⊆ ys) :
    ∃ rest, ys.Perm (xs ++ rest) := by
  obtain ⟨zs, hzs, hsublist⟩ := hnodup.subperm hsubset
  obtain ⟨rest, hrest⟩ := hsublist.exists_perm_append
  exact ⟨rest, hrest.trans (hzs.append_right rest)⟩

theorem sum_le_sum_of_subset (hnodup : xs.Nodup) (hsubset : xs ⊆ ys)
    (hle : ∀ x ∈ xs, f x ≤ g x) : (xs.map f).sum ≤ (ys.map g).sum := by
  obtain ⟨rest, hperm⟩ := exists_perm_append_of_subset hnodup hsubset
  rw [(hperm.map g).sum_eq, List.map_append, List.sum_append]
  exact Nat.le_add_right_of_le (List.sum_le_sum hle)

theorem sum_lt_sum_of_growth (hnodup : xs.Nodup) (hsubset : xs ⊆ ys)
    (hle : ∀ x ∈ xs, f x ≤ g x) (hlt : ∃ x ∈ xs, f x < g x) :
    (xs.map f).sum < (ys.map g).sum := by
  obtain ⟨rest, hperm⟩ := exists_perm_append_of_subset hnodup hsubset
  rw [(hperm.map g).sum_eq, List.map_append, List.sum_append]
  exact Nat.lt_add_right _ (List.sum_lt_sum f g hle hlt)

theorem sum_lt_sum_of_new (hnodup : xs.Nodup) (hsubset : xs ⊆ ys)
    (hle : ∀ x ∈ xs, f x ≤ g x) {y : α} (hy : y ∈ ys) (hnew : y ∉ xs) (hpos : 0 < g y) :
    (xs.map f).sum < (ys.map g).sum := by
  obtain ⟨rest, hperm⟩ := exists_perm_append_of_subset hnodup hsubset
  have hrest : y ∈ rest :=
    (List.mem_append.mp (hperm.mem_iff.mp hy)).resolve_left hnew
  have hsum : g y ≤ (rest.map g).sum := List.le_sum_of_mem (List.mem_map_of_mem hrest)
  have hparts : (xs.map f).sum ≤ (xs.map g).sum := List.sum_le_sum hle
  rw [(hperm.map g).sum_eq, List.map_append, List.sum_append]
  omega

end

namespace Compiler

variable {c : Compiler} {s t : ViewState} {column : String}

/-- What a key of an assembled map adds to the quotes of its text. -/
def cellQuotes (c : Compiler) (m : MapField) (key : String) : Nat :=
  quoteCount (quoteText key) +
    quoteCount (assembledCell c.table c.source.hasRequirement m key).2.text

/-- An assembled map holds the quotes of its keys and of their values, and no others. -/
theorem Yields.quoteCount_assembly {m : MapField} {value : ColumnValue}
    (h : c.Yields s column (.assembly m) value) :
    quoteCount value.text = ((s.keysOf column).toList.map (c.cellQuotes m)).sum := by
  cases h with
  | noKeys keyless =>
      have hnull : quoteCount (ColumnValue.null SqlType.nullMap).text = 0 := by decide
      rw [keyless, hnull, Std.ExtTreeSet.toList_eq_nil_iff.mpr rfl]
      rfl
  | map _ =>
      have hopening : quoteCount "MAP(" = 0 := by decide
      have hcomma : quoteCount ", " = 0 := by decide
      have hclosing : quoteCount ")" = 0 := by decide
      have hkeys : '\'' ∉ ",".toList := by decide
      have hvalues : '\'' ∉ ", ".toList := by decide
      rw [ColumnValue.text, mapText]
      simp only [quoteCount_append, hopening, hcomma, hclosing, quoteCount_arrayText hkeys,
        quoteCount_arrayText hvalues, List.map_map, Function.comp_def, Nat.zero_add, Nat.add_zero,
        ← List.sum_map_add]
      exact congrArg List.sum (List.map_congr_left fun key _ => rfl)

/-! ### States that grew -/

/-- A column is rendered in one way only. -/
theorem Renders.unique {v w : ColumnValue} (hv : c.Renders s column v)
    (hw : c.Renders s column w) : v = w := by
  have hitem : (c.renderColumn s column).value = .ok ⟨column, v⟩ :=
    value_renderColumn_eq_ok_iff.mpr ⟨rfl, hv⟩
  have hother : (c.renderColumn s column).value = .ok ⟨column, w⟩ :=
    value_renderColumn_eq_ok_iff.mpr ⟨rfl, hw⟩
  rw [hitem] at hother
  cases hother
  rfl

/-- The items of a rendered state are its columns, each with its value. -/
theorem exists_values {columns : List String} {items : List SelectItem}
    (h : List.Forall₂ (c.IsItem s) columns items) :
    ∃ value : String → ColumnValue, items = columns.map (fun n => ⟨n, value n⟩) ∧
      ∀ n ∈ columns, c.Renders s n (value n) := by
  obtain ⟨value, hvalue⟩ : ∃ value : String → ColumnValue,
      ∀ n v, c.Renders s n v → value n = v := by
    classical
    refine ⟨fun n => if hn : ∃ v, c.Renders s n v then hn.choose else .null "", fun n v hv => ?_⟩
    have hn : ∃ v, c.Renders s n v := ⟨v, hv⟩
    exact (dif_pos hn).trans (hn.choose_spec.unique hv)
  refine ⟨value, ?_, ?_⟩
  · induction h with
    | nil => rfl
    | @cons n item rest others hitem _ ih =>
        obtain ⟨itemColumn, itemValue⟩ := item
        obtain ⟨hcolumn, hitem⟩ := hitem
        obtain rfl : itemColumn = n := hcolumn
        rw [List.map_cons, ← ih, hvalue _ _ hitem]
  · intro n hn
    obtain ⟨item, -, -, hitem⟩ := exists_item h hn
    rwa [hvalue n _ hitem]

/-- A state that exposes all that another does, and under the same types. -/
structure Grows (c : Compiler) (s t : ViewState) : Prop where
  columns : ∀ n, s.hasColumn n = true → t.hasColumn n = true
  types : ∀ n, c.targetType? t n = c.targetType? s n
  keys : ∀ n, ∀ key ∈ s.keysOf n, key ∈ t.keysOf n

/-- Extending makes a state grow. -/
theorem grows_extend (s : ViewState) (xs : List Exposure) : c.Grows s (s.extend xs) where
  columns _ hn := ViewState.hasColumn_extend.mpr (Or.inl hn)
  types _ := targetType?_extend
  keys _ _ hkey := ViewState.mem_keysOf_extend.mpr (Or.inl hkey)

/-- A column that is not assembled from more keys than before keeps its value. -/
theorem Grows.renders (hgrows : c.Grows s t) {v : ColumnValue} (hv : c.Renders s column v)
    (hkeys : ∀ m, (c.crosswalk.resolve column).value = .ok (.assembly m) →
      t.keysOf column = s.keysOf column) : c.Renders t column v := by
  refine hv.transfer (fun type literal htype hliteral => ?_) hkeys
  rw [hgrows.types]
  exact ⟨type, htype, hliteral⟩

/-- The text of a column loses no quotes, and gains some if it is assembled from more keys. -/
theorem Grows.quoteCount_le (hgrows : c.Grows s t) {v w : ColumnValue}
    (hv : c.Renders s column v) (hw : c.Renders t column w) :
    quoteCount v.text ≤ quoteCount w.text ∧
      ∀ m, (c.crosswalk.resolve column).value = .ok (.assembly m) →
        t.keysOf column ≠ s.keysOf column → quoteCount v.text < quoteCount w.text := by
  obtain ⟨resolution, hresolution, hyields⟩ := id hv
  cases resolution with
  | derived e requirements =>
      have hother (m : MapField) : (c.crosswalk.resolve column).value ≠ .ok (.assembly m) := by
        rw [hresolution]
        simp
      have hsame : v = w := (hgrows.renders hv fun m hm => absurd hm (hother m)).unique hw
      exact ⟨hsame ▸ le_rfl, fun m hm => absurd hm (hother m)⟩
  | assembly m =>
      obtain ⟨_, hresolution', hyields'⟩ := hw
      rw [hresolution] at hresolution'
      cases hresolution'
      have hnodup : (s.keysOf column).toList.Nodup :=
        Std.ExtTreeSet.distinct_toList.imp Std.ReflCmp.ne_of_cmp_ne_eq
      have hsubset : (s.keysOf column).toList ⊆ (t.keysOf column).toList := by
        intro key hkey
        rw [Std.ExtTreeSet.mem_toList] at hkey ⊢
        exact hgrows.keys column key hkey
      rw [hyields.quoteCount_assembly, hyields'.quoteCount_assembly]
      refine ⟨sum_le_sum_of_subset hnodup hsubset fun _ _ => le_rfl, fun _ _ hne => ?_⟩
      obtain ⟨key, hkey, hnew⟩ : ∃ key ∈ t.keysOf column, key ∉ s.keysOf column := by
        by_contra hnone
        push Not at hnone
        exact hne (Std.ExtTreeSet.ext_mem fun key =>
          ⟨hnone key, hgrows.keys column key⟩)
      refine sum_lt_sum_of_new hnodup hsubset (fun _ _ => le_rfl)
        (Std.ExtTreeSet.mem_toList.mpr hkey) (fun h => hnew (Std.ExtTreeSet.mem_toList.mp h)) ?_
      exact Nat.add_pos_left (quoteCount_quoteText_pos key) _

/-- The text of a column is never empty. -/
theorem length_text_pos (item : SelectItem) : 0 < item.text.length := by
  have has : (" AS " : String).length = 4 := by decide
  rw [SelectItem.text, String.length_append, String.length_append, has]
  omega

/-- Definitions of one view over one source have the same text only if their lists of columns do. -/
theorem joined_eq_of_sql_eq {d e : ViewDefinition} (hview : e.view = d.view)
    (hsource : e.source = d.source) (h : e.sql = d.sql) :
    joined ", " (e.items.map SelectItem.text) = joined ", " (d.items.map SelectItem.text) := by
  unfold ViewDefinition.sql at h
  rw [hview, hsource] at h
  have hitems := (String.append_left_inj _).mp ((String.append_left_inj _).mp h)
  exact (String.append_right_inj _).mp hitems

/-- Of two definitions of one view over one source whose texts are the same, the columns hold the
same number of quotes and are of the same length in all. -/
theorem sums_eq_of_sql_eq {d e : ViewDefinition} (hview : e.view = d.view)
    (hsource : e.source = d.source) (h : e.sql = d.sql) :
    (e.items.map fun item => quoteCount item.text).sum =
        (d.items.map fun item => quoteCount item.text).sum ∧
      (e.items.map fun item => item.text.length).sum + (e.items.length - 1) * 2 =
        (d.items.map fun item => item.text.length).sum + (d.items.length - 1) * 2 := by
  have hjoined := joined_eq_of_sql_eq hview hsource h
  have hquotes := congrArg quoteCount hjoined
  have hlength := congrArg (fun text => text.toList.length) hjoined
  rw [quoteCount_joined (by decide), quoteCount_joined (by decide)] at hquotes
  simp only [toList_joined, length_intercalate] at hlength
  constructor
  · simpa [List.map_map, Function.comp_def] using hquotes
  · simpa [List.map_map, Function.comp_def, String.length_toList] using hlength

section

variable {v w : String → ColumnValue}

theorem Grows.columnNames_subset (hgrows : c.Grows s t) : s.columnNames ⊆ t.columnNames := by
  intro n hn
  rw [ViewState.mem_columnNames] at hn ⊢
  exact hgrows.columns n hn

/-- If the columns hold as many quotes as before, no map is assembled from more keys: the quotes that
a key adds are not made up for. -/
theorem Grows.keysOf_eq (hgrows : c.Grows s t) (hv : ∀ n ∈ s.columnNames, c.Renders s n (v n))
    (hw : ∀ n ∈ t.columnNames, c.Renders t n (w n))
    (hquotes : (t.columnNames.map fun n => quoteCount (SelectItem.mk n (w n)).text).sum =
      (s.columnNames.map fun n => quoteCount (SelectItem.mk n (v n)).text).sum)
    {m : MapField} (hcolumn : s.hasColumn column = true)
    (hm : (c.crosswalk.resolve column).value = .ok (.assembly m)) :
    t.keysOf column = s.keysOf column := by
  have hle (n : String) (hn : n ∈ s.columnNames) :
      quoteCount (v n).text ≤ quoteCount (w n).text ∧ _ :=
    hgrows.quoteCount_le (hv n hn) (hw n (hgrows.columnNames_subset hn))
  by_contra hne
  rw [← ViewState.mem_columnNames] at hcolumn
  have hmore := (hle column hcolumn).2 m hm hne
  refine absurd hquotes (Nat.ne_of_gt (sum_lt_sum_of_growth Std.ExtTreeMap.nodup_keys
    hgrows.columnNames_subset (fun n hn => ?_) ⟨column, hcolumn, ?_⟩))
  · have hsame := (hle n hn).1
    simp only [SelectItem.text, quoteCount_append]
    omega
  · simp only [SelectItem.text, quoteCount_append]
    omega

/-- If no map is assembled from more keys, the columns that there were keep their values. -/
theorem Grows.values_eq (hgrows : c.Grows s t) (hv : ∀ n ∈ s.columnNames, c.Renders s n (v n))
    (hw : ∀ n ∈ t.columnNames, c.Renders t n (w n))
    (hkeys : ∀ n m, s.hasColumn n = true → (c.crosswalk.resolve n).value = .ok (.assembly m) →
      t.keysOf n = s.keysOf n) : ∀ n ∈ s.columnNames, v n = w n := by
  intro n hn
  have hkept : c.Renders t n (v n) :=
    hgrows.renders (hv n hn) fun m hm => hkeys n m (ViewState.mem_columnNames.mp hn) hm
  exact hkept.unique (hw n (hgrows.columnNames_subset hn))

/-- If the columns that there were keep their values and the list of columns its length, no column
is new. -/
theorem Grows.hasColumn_of_length_eq (hgrows : c.Grows s t)
    (hsame : ∀ n ∈ s.columnNames, v n = w n)
    (hlength : (t.columnNames.map fun n => (SelectItem.mk n (w n)).text.length).sum +
        (t.columnNames.length - 1) * 2 =
      (s.columnNames.map fun n => (SelectItem.mk n (v n)).text.length).sum +
        (s.columnNames.length - 1) * 2)
    (hcolumn : t.hasColumn column = true) : s.hasColumn column = true := by
  have hnodup : s.columnNames.Nodup := Std.ExtTreeMap.nodup_keys
  by_contra hnew
  rw [← ViewState.mem_columnNames] at hcolumn hnew
  have hlonger := sum_lt_sum_of_new hnodup hgrows.columnNames_subset
    (f := fun n => (SelectItem.mk n (v n)).text.length)
    (g := fun n => (SelectItem.mk n (w n)).text.length)
    (fun n hn => by rw [hsame n hn]) hcolumn hnew (length_text_pos _)
  have hmore : s.columnNames.length ≤ t.columnNames.length :=
    (hnodup.subperm hgrows.columnNames_subset).length_le
  omega

end

/-- A state that grew is rendered to the same text just if no column is new and no map is assembled
from more keys. -/
theorem Grows.sql_eq_iff (hgrows : c.Grows s t) {d e : ViewDefinition}
    (hd : (c.render s).value = .ok d) (he : (c.render t).value = .ok e) :
    e.sql = d.sql ↔
      (∀ n, t.hasColumn n = true → s.hasColumn n = true) ∧
        ∀ n m, s.hasColumn n = true → (c.crosswalk.resolve n).value = .ok (.assembly m) →
          t.keysOf n = s.keysOf n := by
  obtain ⟨hdview, hdsource, hditems⟩ := value_render_eq_ok_iff.mp hd
  obtain ⟨heview, hesource, heitems⟩ := value_render_eq_ok_iff.mp he
  obtain ⟨v, hv, hvs⟩ := exists_values hditems
  obtain ⟨w, hw, hws⟩ := exists_values heitems
  constructor
  · intro hsql
    obtain ⟨hquotes, hlength⟩ := sums_eq_of_sql_eq (heview.trans hdview.symm)
      (hesource.trans hdsource.symm) hsql
    rw [hv, hw, List.map_map, List.map_map] at hquotes hlength
    rw [List.length_map, List.length_map] at hlength
    -- The keys come first: only then are the texts of the old columns known to be unchanged.
    have hkeys : ∀ n m, s.hasColumn n = true →
        (c.crosswalk.resolve n).value = .ok (.assembly m) → t.keysOf n = s.keysOf n :=
      fun n m hn hm => hgrows.keysOf_eq hvs hws hquotes hn hm
    exact ⟨fun n hn =>
      hgrows.hasColumn_of_length_eq (hgrows.values_eq hvs hws hkeys) hlength hn, hkeys⟩
  · rintro ⟨hcolumns, hkeys⟩
    have hnames : t.columnNames = s.columnNames :=
      ViewState.columnNames_congr fun n => Bool.eq_iff_iff.mpr ⟨hcolumns n, hgrows.columns n⟩
    have hitems : e.items = d.items := by
      rw [hv, hw, hnames]
      exact List.map_congr_left fun n hn => by rw [hgrows.values_eq hvs hws hkeys n hn]
    unfold ViewDefinition.sql
    rw [heview, hesource, hitems, hdview, hdsource]

/-! ### The definition that was executed last -/

/-- A state that is rendered as a definition and has the types of its columns recorded. -/
structure Settled (c : Compiler) (d : ViewDefinition) (s : ViewState) : Prop where
  rendered : (c.render s).value = .ok d
  recorded : c.recordTypes s = s

/-- Recording the types of what was rendered settles it. -/
theorem settled_recordTypes {d : ViewDefinition} (h : (c.render s).value = .ok d) :
    c.Settled d (c.recordTypes s) where
  rendered := by
    have hrender : c.render ((c.recordTypes s).extend []) = c.render (s.extend []) :=
      render_extend_recordTypes
    rw [ViewState.extend_nil, ViewState.extend_nil] at hrender
    rw [hrender, h]
  recorded := by
    have hrecord : c.recordTypes ((c.recordTypes s).extend []) = c.recordTypes (s.extend []) :=
      recordTypes_extend_recordTypes
    rwa [ViewState.extend_nil, ViewState.extend_nil] at hrecord

/-- The definition that was executed last before a snapshot was returned: a compilation that
executes one returns a snapshot with it, and one that finds the view up to date keeps both.  The
engine need not be the same each time. -/
inductive LastExecuted (c : Compiler) : Snapshot → ViewDefinition → Prop
  | executed {σ : Type} {engine : Engine σ} {snapshot later : Snapshot} {request : Request}
      {world after : σ} {d : ViewDefinition}
      (h : (c.compile engine snapshot request).result world = (.ok ⟨some d, later⟩, after)) :
      LastExecuted c later d
  | kept {σ : Type} {engine : Engine σ} {snapshot later : Snapshot} {request : Request}
      {world after : σ} {d : ViewDefinition} (before : LastExecuted c snapshot d)
      (h : (c.compile engine snapshot request).result world = (.ok ⟨none, later⟩, after)) :
      LastExecuted c later d

/-- Whatever is requested is exposed in the state that is returned. -/
theorem hasColumn_of_compile {σ : Type} {engine : Engine σ} {snapshot : Snapshot}
    {request : Request} {world after : σ} {o : Outcome} {f : Field}
    (h : (c.compile engine snapshot request).result world = (.ok o, after))
    (hs : o.snapshot = .compiled s) (hf : f ∈ request.fields) :
    s.hasColumn (c.crosswalk.exposureOf f).column = true := by
  have hx : c.crosswalk.exposureOf f ∈ c.requested request := mem_requested.mpr ⟨f, hf, rfl⟩
  rcases (result_compile_eq_ok_iff engine).mp h with
    ⟨⟨known, hknown, hcontains⟩, rfl, -⟩ | ⟨-, _, _, _, -, -, -, rfl⟩
  · obtain rfl : known = s := Snapshot.compiled.inj (hknown.symm.trans hs)
    exact (ViewState.contains_iff.mp (hcontains _ hx)).1
  · cases hs
    rw [hasColumn_recordTypes, ViewState.hasColumn_extend]
    exact Or.inr ⟨_, hx, rfl⟩

/-- A compilation that executes something returns a state that is settled by it. -/
theorem exists_settled_of_compile {σ : Type} {engine : Engine σ} {snapshot later : Snapshot}
    {request : Request} {world after : σ} {d : ViewDefinition}
    (h : (c.compile engine snapshot request).result world = (.ok ⟨some d, later⟩, after)) :
    ∃ s, later = .compiled s ∧ c.Settled d s := by
  rcases (result_compile_eq_ok_iff engine).mp h with
    ⟨-, houtcome, -⟩ | ⟨-, s, between, own, -, hrender, -, houtcome⟩
  · cases houtcome
  · cases houtcome
    exact ⟨_, rfl, settled_recordTypes hrender⟩

/-- So every state is settled by the definition that was executed last. -/
theorem LastExecuted.exists_settled {snapshot : Snapshot} {d : ViewDefinition}
    (h : c.LastExecuted snapshot d) : ∃ s, snapshot = .compiled s ∧ c.Settled d s := by
  induction h with
  | executed h => exact exists_settled_of_compile h
  | kept _ h ih =>
      rcases (result_compile_eq_ok_iff _).mp h with
        ⟨-, houtcome, -⟩ | ⟨-, s, between, own, -, -, -, houtcome⟩
      · cases houtcome
        exact ih
      · cases houtcome

/-! ### Compiling in full what is covered -/

variable {σ : Type}

/-- For a request that is covered by the state that a compilation returned with a statement, the
full compilation renders that statement again and leaves that state, types and keys included.  All
that it does is to execute the statement once more, where the compilation itself does nothing. -/
theorem deploy_covered (c : Compiler) (engine : Engine σ) (snapshot : Snapshot) (request : Request)
    (world after : σ) (o : Outcome) (sql : String)
    (hcompiled : (c.compile engine snapshot request).result world = (.ok o, after))
    (hexecuted : o.sql? = some sql) :
    ∃ s d, o.snapshot = .compiled s ∧ d.sql = sql ∧
      ∀ again : Request, s.covers (c.requested again) = true →
        (c.render (s.extend (c.requested again))).value = .ok d ∧
        c.recordTypes (s.extend (c.requested again)) = s ∧
        ∀ (τ : Type) (other : Engine τ) (now : τ),
          (c.compile other (.compiled s) again).result now = (.ok ⟨none, .compiled s⟩, now) ∧
          (c.deploy other (s.extend (c.requested again))).result now =
            match (other.execute sql).result now with
            | (.error e, last) => (.error (.catalog e), last)
            | (.ok (), last) => (.ok ⟨some d, .compiled s⟩, last) := by
  obtain ⟨definition, later⟩ := o
  obtain ⟨d, hd, rfl⟩ := Option.map_eq_some_iff.mp hexecuted
  obtain rfl : definition = some d := hd
  obtain ⟨s, rfl, hsettled⟩ := exists_settled_of_compile hcompiled
  refine ⟨s, d, rfl, rfl, fun again hcovers => ?_⟩
  have hcontains : ∀ x ∈ c.requested again, s.contains x = true := ViewState.covers_iff.mp hcovers
  rw [ViewState.extend_of_contains hcontains]
  refine ⟨hsettled.rendered, hsettled.recorded, fun τ other now => ⟨?_, ?_⟩⟩
  · exact result_compile_of_upToDate other ⟨s, rfl, hcontains⟩ now
  · have hdeploy := result_deploy (c := c) (s := s) other now
    rw [hsettled.rendered, hsettled.recorded] at hdeploy
    rcases hexecute : (other.execute d.sql).result now with ⟨e | ⟨⟩, last⟩
    · simpa only [hexecute] using hdeploy
    · simpa only [hexecute] using hdeploy

theorem deploy_covered_at_assembled_map :
    let c : Compiler := ⟨⟨"1", [⟨"product", .varchar⟩], []⟩, ⟨"cur", .one, ∅⟩, .two⟩
    let both : Request := ⟨.ofList [Field.mapKey "product" "vcpu", .mapKey "product" "region"]⟩
    let one : Request := ⟨.ofList [Field.mapKey "product" "vcpu"]⟩
    ∃ o after sql s d,
      (c.compile Catalog.engine .fresh both).result (.ofTables ∅) = (.ok o, after) ∧
      o.sql? = some sql ∧ o.snapshot = .compiled s ∧ d.sql = sql ∧
      s.covers (c.requested one) = true ∧
      (c.render (s.extend (c.requested one))).value = .ok d ∧
      c.recordTypes (s.extend (c.requested one)) = s := by
  intro c both one
  let covering (o : Outcome) : Bool :=
    o.sql?.isSome && (o.snapshot.state?.map fun s => s.covers (c.requested one)).getD false
  have hok : ((c.compile Catalog.engine .fresh both).result (.ofTables ∅)).1.toOption.any
      covering = true := by
    decide +kernel
  rcases hcompiled : (c.compile Catalog.engine .fresh both).result (.ofTables ∅) with
    ⟨e | o, after⟩
  · rw [hcompiled] at hok
    cases hok
  · rw [hcompiled] at hok
    obtain ⟨hsome, hcovers⟩ := Bool.and_eq_true_iff.mp hok
    obtain ⟨sql, hsql⟩ := Option.isSome_iff_exists.mp hsome
    obtain ⟨s, d, hs, hd, hagain⟩ :=
      deploy_covered c Catalog.engine .fresh both _ after o sql hcompiled hsql
    rw [hs] at hcovers
    obtain ⟨hrender, hrecord, -⟩ := hagain one hcovers
    exact ⟨o, after, sql, s, d, rfl, hsql, hs, hd, hcovers, hrender, hrecord⟩

/-! ### Statements that are repeated -/

/-- An extension adds neither a column nor a key of an assembled map just if none of the exposures
does. -/
theorem extend_adds_nothing_iff {xs : List Exposure} :
    ((∀ n, (s.extend xs).hasColumn n = true → s.hasColumn n = true) ∧
      ∀ n m, s.hasColumn n = true → (c.crosswalk.resolve n).value = .ok (.assembly m) →
        (s.extend xs).keysOf n = s.keysOf n) ↔
    ∀ x ∈ xs, s.hasColumn x.column = true ∧
      ∀ m key, (c.crosswalk.resolve x.column).value = .ok (.assembly m) → x.key = some key →
        key ∈ s.keysOf x.column := by
  constructor
  · rintro ⟨hcolumns, hkeys⟩ x hx
    have hcolumn : s.hasColumn x.column = true :=
      hcolumns _ (ViewState.hasColumn_extend.mpr (Or.inr ⟨x, hx, rfl⟩))
    refine ⟨hcolumn, fun m key hm hkey => ?_⟩
    have hadded : .ofKey x.column key ∈ xs := by
      rwa [Exposure.ofKey, ← hkey]
    rw [← hkeys _ m hcolumn hm]
    exact ViewState.mem_keysOf_extend.mpr (Or.inr hadded)
  · intro hnothing
    refine ⟨fun n hn => ?_, fun n m _ hm => Std.ExtTreeSet.ext_mem fun key => ?_⟩
    · rcases ViewState.hasColumn_extend.mp hn with hold | ⟨x, hx, rfl⟩
      · exact hold
      · exact (hnothing x hx).1
    · rw [ViewState.mem_keysOf_extend, or_iff_left_iff_imp]
      exact fun hx => (hnothing _ hx).2 m key hm rfl

/-- A new key of an exposed column that is not assembled is one of generation two that is passed
through. -/
theorem generations_of_passed_key {f : Field} (hreadable : ∃ text, Field.parse c.table text = .ok f)
    (hcolumn : s.hasColumn (c.crosswalk.exposureOf f).column = true)
    (hnew : ¬ s.contains (c.crosswalk.exposureOf f) = true)
    (hpassed : ∀ m key,
      (c.crosswalk.resolve (c.crosswalk.exposureOf f).column).value = .ok (.assembly m) →
        (c.crosswalk.exposureOf f).key = some key →
          key ∈ s.keysOf (c.crosswalk.exposureOf f).column) :
    c.source.generation = .two ∧ c.target = .two := by
  obtain ⟨key, hkey, hnotMem⟩ : ∃ key, (c.crosswalk.exposureOf f).key = some key ∧
      key ∉ s.keysOf (c.crosswalk.exposureOf f).column := by
    by_contra hnone
    push Not at hnone
    exact hnew (ViewState.contains_iff.mpr ⟨hcolumn, hnone⟩)
  obtain ⟨text, hparse⟩ := hreadable
  cases f with
  | plain name => cases hkey
  | mapKey container own =>
      have htarget : c.target = .two := by
        cases htarget : c.target with
        | two => rfl
        | one =>
            have hcrosswalk : c.crosswalk.target = .one := htarget
            rw [Crosswalk.exposureOf, hcrosswalk] at hkey
            cases hkey
      refine ⟨?_, htarget⟩
      rw [exposureOf_eq htarget] at hkey hnotMem hpassed
      cases hsource : c.source.generation with
      | two => rfl
      | one =>
          obtain ⟨m, hm⟩ := FieldTable.isMapField_iff.mp (Field.isMapField_of_parse hparse)
          have hassembled : (c.crosswalk.resolve container).value = .ok (.assembly m) :=
            (Crosswalk.value_resolve_toMap_eq_ok_iff hsource htarget).mpr (Or.inl ⟨m, hm, rfl⟩)
          exact absurd (hpassed m key hassembled hkey) hnotMem

/-- A statement that is executed repeats the last one just if every requested field lies in a column
that is exposed already, and no map is assembled from a key that is new.  If fields are requested
as the table reads them this happens only where a map column is passed through from generation two
to generation two: there a new key alone repeats the statement. -/
theorem sql_eq_last_iff (c : Compiler) (snapshot : Snapshot) (d : ViewDefinition)
    (hlast : c.LastExecuted snapshot d) (engine : Engine σ) (request : Request) (world after : σ)
    (e : ViewDefinition) (later : Snapshot)
    (hcompiled : (c.compile engine snapshot request).result world = (.ok ⟨some e, later⟩, after)) :
    ∃ s, snapshot = .compiled s ∧
      (e.sql = d.sql ↔ ∀ x ∈ c.requested request, s.hasColumn x.column = true ∧
        ∀ m key, (c.crosswalk.resolve x.column).value = .ok (.assembly m) → x.key = some key →
          key ∈ s.keysOf x.column) ∧
      ((∀ f ∈ request.fields, ∃ text, Field.parse c.table text = .ok f) →
        (e.sql = d.sql ↔ c.source.generation = .two ∧ c.target = .two ∧
          ∀ f ∈ request.fields, s.hasColumn f.head = true)) := by
  obtain ⟨s, rfl, hsettled⟩ := hlast.exists_settled
  rcases (result_compile_eq_ok_iff engine).mp hcompiled with
    ⟨-, houtcome, -⟩ | ⟨hstale, _, between, own, hstart, hrender, -, houtcome⟩
  · cases houtcome
  cases houtcome
  obtain ⟨rfl, -⟩ := Prod.mk.inj hstart
  have hiff : e.sql = d.sql ↔ ∀ x ∈ c.requested request, s.hasColumn x.column = true ∧
      ∀ m key, (c.crosswalk.resolve x.column).value = .ok (.assembly m) → x.key = some key →
        key ∈ s.keysOf x.column := by
    rw [(grows_extend s (c.requested request)).sql_eq_iff hsettled.rendered hrender]
    exact extend_adds_nothing_iff
  refine ⟨s, rfl, hiff, fun hreadable => hiff.trans ⟨fun hrepeats => ?_, ?_⟩⟩
  · obtain ⟨x, hx, hnew⟩ : ∃ x ∈ c.requested request, ¬ s.contains x = true := by
      by_contra hnone
      push Not at hnone
      exact hstale ⟨s, rfl, hnone⟩
    obtain ⟨f, hf, rfl⟩ := mem_requested.mp hx
    obtain ⟨hcolumn, hkey⟩ := hrepeats _ hx
    obtain ⟨hsource, htarget⟩ := generations_of_passed_key (hreadable f hf) hcolumn hnew hkey
    refine ⟨hsource, htarget, fun other hother => ?_⟩
    have hexposed := (hrepeats _ (mem_requested.mpr ⟨other, hother, rfl⟩)).1
    rwa [exposureOf_eq htarget] at hexposed
  · rintro ⟨hsource, htarget, hcolumns⟩ x hx
    obtain ⟨f, hf, rfl⟩ := mem_requested.mp hx
    rw [exposureOf_eq htarget]
    refine ⟨hcolumns f hf, fun m key hm _ => ?_⟩
    -- Nothing is assembled over a source of generation two.
    have hone := (Crosswalk.of_value_resolve_eq_assembly hm).1
    change c.source.generation = .one at hone
    rw [hsource] at hone
    cases hone

theorem sql_eq_last_iff_at_passed_key :
    let c : Compiler := ⟨⟨"1", [⟨"product", .varchar⟩], []⟩,
      .ofColumns "cur" .two [⟨"product", "map(varchar, varchar)"⟩], .two⟩
    let key : Request := ⟨.ofList [Field.mapKey "product" "vcpu"]⟩
    ∃ snapshot d between e later after, c.LastExecuted snapshot d ∧
      (c.compile Catalog.engine snapshot key).result between = (.ok ⟨some e, later⟩, after) ∧
      (∀ f ∈ key.fields, ∃ text, Field.parse c.table text = .ok f) ∧ e.sql = d.sql := by
  intro c key
  let column : Request := ⟨.ofList [Field.plain "product"]⟩
  have htwo : ((c.compileEach Catalog.engine .fresh [column, key]).result
      (.ofTables ∅)).1.toOption.map (fun x => x.definitions.length) = some 2 := by
    decide +kernel
  rcases heach : (c.compileEach Catalog.engine .fresh [column, key]).result (.ofTables ∅) with
    ⟨failure | x, last⟩
  · rw [heach] at htwo
    cases htwo
  obtain ⟨⟨first, snapshot⟩, between, y, hcolumn, hrest, rfl⟩ :=
    (result_compileEach_cons_eq_ok_iff Catalog.engine).mp heach
  obtain ⟨⟨second, later⟩, after, z, hkey, hnil, rfl⟩ :=
    (result_compileEach_cons_eq_ok_iff Catalog.engine).mp hrest
  cases hnil
  rw [heach] at htwo
  cases first with
  | none => cases second <;> cases htwo
  | some d =>
      cases second with
      | none => cases htwo
      | some e =>
          have hlast : c.LastExecuted snapshot d := .executed hcolumn
          have hparse : Field.parse c.table "product['vcpu']" = .ok (.mapKey "product" "vcpu") := by
            decide +kernel
          have hfield : ∀ f ∈ key.fields, f = .mapKey "product" "vcpu" :=
            fun f hf => eq_of_mem_ofList_singleton hf
          have hreadable : ∀ f ∈ key.fields, ∃ text, Field.parse c.table text = .ok f := by
            intro f hf
            exact ⟨_, hfield f hf ▸ hparse⟩
          obtain ⟨s, hs, -, hiff⟩ := sql_eq_last_iff c snapshot d hlast Catalog.engine key between
            last e later hkey
          have hproduct : s.hasColumn "product" = true :=
            hasColumn_of_compile (f := .plain "product") hcolumn hs
              (Std.ExtTreeSet.mem_ofList.mpr rfl)
          refine ⟨snapshot, d, between, e, later, last, hlast, hkey, hreadable,
            (hiff hreadable).mpr ⟨rfl, rfl, fun f hf => ?_⟩⟩
          rw [hfield f hf]
          exact hproduct

/-- A key that is requested of a map column that is passed through repeats the statement that
exposed the column. -/
theorem passed_key_repeats_statement :
    let tags : List ColumnInfo := [⟨"resource_tags", "map(varchar, varchar)"⟩]
    let c : Compiler := ⟨FieldTable.builtIn, .ofColumns "billing.cur2" .two tags, .two⟩
    let column : Request := ⟨.ofList [Field.plain "resource_tags"]⟩
    let key : Request := ⟨.ofList [Field.mapKey "resource_tags" "user_team"]⟩
    let sql := "CREATE OR REPLACE VIEW billing.cur2_proxy AS SELECT " ++
      "resource_tags AS resource_tags FROM billing.cur2"
    ((c.compileEach Catalog.engine .fresh [column, key]).result (.ofTables ∅)).1.toOption.map
      (fun x => x.definitions.map ViewDefinition.sql) = some [sql, sql] := by
  decide +kernel

end Compiler
end CostView
