import CostView.FieldTable.Indexed
import Mathlib.Data.List.Forall2
import Mathlib.Data.List.Nodup
import Std.Data.HashMap.Lemmas

/-!
# Tables that are read in both directions

A table is built entry by entry, and with each entry its names are entered in the index.  Every name
has a place in the index just if some entry of the table has the name, and then it is the place of
that entry: this holds after every step, so it holds of the whole table.  A name with a place is
refused, so the tables that are built are the bijections between columns of generation one and
fields of generation two, and a look-up finds the one entry that has the name.

Quotes around a name make no difference.
-/

namespace CostView

/-! ### Expressions up to quotes -/

namespace Expr

mutual

/-- An expression with its names out of their quotes. -/
def unquoted : Expr → Expr
  | .column name | .quoted name => .column name
  | .subscript container key => .subscript container.unquoted key
  | .call name arguments => .call name (unquotedList arguments)
  | .literal value => .literal value

/-- Arguments with their names out of their quotes. -/
def unquotedList : List Expr → List Expr
  | [] => []
  | e :: rest => e.unquoted :: unquotedList rest

end

variable {e : Expr} {name container key : String}

theorem unquoted_eq_column_iff : e.unquoted = .column name ↔ e.column? = some name := by
  cases e <;> simp [unquoted, column?]

theorem unquoted_eq_subscript_iff :
    e.unquoted = .subscript (.column container) key ↔ e.subscript? = some (container, key) := by
  cases e with
  | subscript inner own =>
      rw [unquoted, subscript.injEq, unquoted_eq_column_iff]
      cases inner <;> simp [column?, subscript?]
  | _ => simp [unquoted, subscript?]

/-- What the entries of a table may pair a column with: a column, or a key of a map column. -/
def IsField (mapFields : List MapField) (e : Expr) : Prop :=
  (∃ name, e.unquoted = .column name) ∨
    ∃ m ∈ mapFields, ∃ key, e.unquoted = .subscript (.column m.name) key

end Expr

/-! ### Bijections -/

namespace FieldTable

/-- A written entry and the entry that it stands for. -/
structure EntryText.StandsFor (text : EntryText) (e : FieldEntry) : Prop where
  column : e.column = text.column
  counterpart : Expr.parse (text.expression.getD text.column) = .ok e.counterpart
  type : e.type = SqlType.parse text.type
  isDefault : e.isDefault = text.isDefault

theorem EntryText.read_eq_ok_iff {text : EntryText} {e : FieldEntry} :
    text.read = .ok e ↔ text.StandsFor e := by
  rw [read, readIdentifier]
  cases hparse : Expr.parse (text.expression.getD text.column) with
  | error error =>
      refine iff_of_false nofun fun h => ?_
      rw [h.counterpart] at hparse
      cases hparse
  | ok counterpart =>
      constructor
      · intro h
        cases h
        exact ⟨rfl, hparse, rfl, rfl⟩
      · rintro ⟨hcolumn, hcounterpart, htype, hdefault⟩
        obtain ⟨column, own, type, isDefault⟩ := e
        cases hcounterpart.symm.trans hparse
        cases hcolumn
        cases htype
        cases hdefault
        rfl

theorem EntryText.StandsFor.rightUnique : Relator.RightUnique EntryText.StandsFor := by
  intro text d e hd he
  rw [← read_eq_ok_iff] at hd he
  exact Except.ok.inj (hd.symm.trans he)

/-- Entries that pair columns with fields one to one, given the map columns of the table. -/
structure Bijective (mapFields : List MapField) (entries : List FieldEntry) : Prop where
  notMap : ∀ e ∈ entries, ∀ m ∈ mapFields, m.name ≠ e.column
  isField : ∀ e ∈ entries, e.counterpart.IsField mapFields
  columns : (entries.map fun e => e.column).Nodup
  counterparts : (entries.map fun e => e.counterpart.unquoted).Nodup

/-- What an entry has to be like for a table to have it as its next. -/
structure Fits (t : FieldTable) (e : FieldEntry) : Prop where
  notMap : ∀ m ∈ t.mapFields, m.name ≠ e.column
  isField : e.counterpart.IsField t.mapFields
  column : ∀ d ∈ t.entries, d.column ≠ e.column
  counterpart : ∀ d ∈ t.entries, d.counterpart.unquoted ≠ e.counterpart.unquoted

theorem nodup_map_concat_iff {β : Type} (f : FieldEntry → β) {entries : List FieldEntry}
    {e : FieldEntry} : ((entries ++ [e]).map f).Nodup ↔
      (entries.map f).Nodup ∧ ∀ d ∈ entries, f d ≠ f e := by
  rw [List.map_append, List.nodup_append]
  simp

/-- A bijection stays one just if the next entry fits. -/
theorem bijective_concat_iff {t : FieldTable} {e : FieldEntry} :
    Bijective t.mapFields (t.entries ++ [e]) ↔ Bijective t.mapFields t.entries ∧ Fits t e := by
  constructor
  · rintro ⟨hmap, hfield, hcolumns, hcounterparts⟩
    simp only [List.forall_mem_append, List.forall_mem_singleton] at hmap hfield
    rw [nodup_map_concat_iff] at hcolumns hcounterparts
    exact ⟨⟨hmap.1, hfield.1, hcolumns.1, hcounterparts.1⟩,
      ⟨hmap.2, hfield.2, hcolumns.2, hcounterparts.2⟩⟩
  · rintro ⟨hbijective, hfits⟩
    constructor
    · simpa only [List.forall_mem_append, List.forall_mem_singleton] using
        ⟨hbijective.notMap, hfits.notMap⟩
    · simpa only [List.forall_mem_append, List.forall_mem_singleton] using
        ⟨hbijective.isField, hfits.isField⟩
    · exact (nodup_map_concat_iff _).mpr ⟨hbijective.columns, hfits.column⟩
    · exact (nodup_map_concat_iff _).mpr ⟨hbijective.counterparts, hfits.counterpart⟩

theorem Bijective.of_append {mapFields : List MapField} {front rest : List FieldEntry}
    (h : Bijective mapFields (front ++ rest)) : Bijective mapFields front where
  notMap e he := h.notMap e (List.mem_append_left rest he)
  isField e he := h.isField e (List.mem_append_left rest he)
  columns := by
    have hcolumns := h.columns
    rw [List.map_append] at hcolumns
    exact hcolumns.of_append_left
  counterparts := by
    have hcounterparts := h.counterparts
    rw [List.map_append] at hcounterparts
    exact hcounterparts.of_append_left

/-! ### One index -/

/-- An index that gives each name the place of the entry with that name, and no other. -/
def Locates {κ : Type} [BEq κ] [Hashable κ] (index : Std.HashMap κ Nat)
    (entries : List FieldEntry) (name? : FieldEntry → Option κ) : Prop :=
  ∀ name place, index[name]? = some place ↔
    ∃ e, entries[place]? = some e ∧ name? e = some name

namespace Locates

variable {κ : Type} [BEq κ] [Hashable κ] {index : Std.HashMap κ Nat}
  {entries : List FieldEntry} {name? : FieldEntry → Option κ} {name : κ} {e : FieldEntry}

theorem empty [LawfulBEq κ] : Locates (∅ : Std.HashMap κ Nat) [] name? := by
  intro name place
  simp

theorem eq_none_iff (h : Locates index entries name?) :
    index[name]? = none ↔ ∀ d ∈ entries, name? d ≠ some name := by
  constructor
  · intro hnone d hd hname
    obtain ⟨place, hplace⟩ := List.getElem?_of_mem hd
    rw [(h name place).mpr ⟨d, hplace, hname⟩] at hnone
    cases hnone
  · intro hnew
    rw [Option.eq_none_iff_forall_ne_some]
    intro place hplace
    obtain ⟨d, hd, hname⟩ := (h name place).mp hplace
    exact hnew d (List.mem_of_getElem? hd) hname

/-- What the index leads to is the entry with the name. -/
theorem bind_eq_some_iff (h : Locates index entries name?) :
    (index[name]?.bind fun place => entries[place]?) = some e ↔
      e ∈ entries ∧ name? e = some name := by
  rw [Option.bind_eq_some_iff]
  constructor
  · rintro ⟨place, hplace, he⟩
    obtain ⟨d, hd, hname⟩ := (h name place).mp hplace
    cases hd.symm.trans he
    exact ⟨List.mem_of_getElem? hd, hname⟩
  · rintro ⟨hmem, hname⟩
    obtain ⟨place, he⟩ := List.getElem?_of_mem hmem
    exact ⟨place, (h name place).mpr ⟨e, he, hname⟩, he⟩

/-- So it is the entry that a search for the name finds. -/
theorem bind_eq_find? [DecidableEq κ] (h : Locates index entries name?) :
    (index[name]?.bind fun place => entries[place]?) =
      entries.find? fun e => name? e = some name := by
  cases hfind : entries.find? fun e => name? e = some name with
  | some e =>
      have hname : name? e = some name := by
        simpa using List.find?_some hfind
      exact h.bind_eq_some_iff.mpr ⟨List.mem_of_find?_eq_some hfind, hname⟩
  | none =>
      have hnew : ∀ d ∈ entries, name? d ≠ some name := by
        simpa using List.find?_eq_none.mp hfind
      rw [h.eq_none_iff.mpr hnew, Option.bind_none]

theorem exists_concat_iff {place : Nat} {P : FieldEntry → Prop} :
    (∃ d, (entries ++ [e])[place]? = some d ∧ P d) ↔
      (∃ d, entries[place]? = some d ∧ P d) ∨ place = entries.length ∧ P e := by
  rcases Nat.lt_trichotomy place entries.length with hlt | rfl | hgt
  · rw [List.getElem?_append_left hlt, or_iff_left (fun h => Nat.ne_of_lt hlt h.1)]
  · simp
  · have hbehind : entries.length + 1 ≤ place := hgt
    rw [List.getElem?_eq_none (by simpa using hbehind), List.getElem?_eq_none (Nat.le_of_lt hgt)]
    simp [Nat.ne_of_gt hgt]

/-- A name that is new is entered with the place behind the last entry. -/
theorem insert [LawfulBEq κ] (h : Locates index entries name?) (hname : name? e = some name)
    (hnew : ∀ d ∈ entries, name? d ≠ some name) :
    Locates (index.insert name entries.length) (entries ++ [e]) name? := by
  intro own place
  rw [Std.HashMap.getElem?_insert, exists_concat_iff]
  split
  · next hsame =>
      obtain rfl := eq_of_beq hsame
      rw [or_iff_right fun ⟨d, hd, hown⟩ => hnew d (List.mem_of_getElem? hd) hown,
        Option.some.injEq, eq_comm, and_iff_left hname]
  · next hother =>
      rw [h own place, or_iff_left]
      rintro ⟨-, hown⟩
      exact hother (beq_iff_eq.mpr (Option.some.inj (hname.symm.trans hown)))

/-- An entry without a name of the kind leaves the index as it is. -/
theorem skip (h : Locates index entries name?) (hname : name? e = none) :
    Locates index (entries ++ [e]) name? := by
  intro own place
  rw [h own place, exists_concat_iff, or_iff_left]
  rintro ⟨-, hown⟩
  exact nomatch hname.symm.trans hown

end Locates
end FieldTable

/-! ### One step -/

theorem bind_eq_ok_iff {ε α β : Type} {x : Except ε α} {f : α → Except ε β} {b : β} :
    x >>= f = .ok b ↔ ∃ a, x = .ok a ∧ f a = .ok b := by
  cases x with
  | error _ => exact iff_of_false nofun nofun
  | ok a => exact ⟨fun h => ⟨a, rfl, h⟩, fun ⟨_, ha, hb⟩ => Except.ok.inj ha ▸ hb⟩

namespace IndexedTable

open FieldTable

variable {t t' : IndexedTable} {e : FieldEntry}

/-- A name is entered just if no entry has it. -/
theorem enter_eq_ok_iff {κ : Type} [BEq κ] [LawfulBEq κ] [Hashable κ] {index : Std.HashMap κ Nat}
    {entries : List FieldEntry} {name? : FieldEntry → Option κ} (h : Locates index entries name?)
    {name : κ} {place : Nat} {fault : EntryFault} {f : Std.HashMap κ Nat → IndexedTable} :
    (enter index name place fault >>= fun entered => pure (f entered)) = .ok t ↔
      (∀ d ∈ entries, name? d ≠ some name) ∧ f (index.insert name place) = t := by
  have henter : enter index name place fault =
      if index.contains name then .error fault else .ok (index.insert name place) := by
    rw [← Std.HashMap.containsThenInsert_fst, ← Std.HashMap.containsThenInsert_snd]
    rfl
  rw [henter, Std.HashMap.contains_eq_isSome_getElem?, ← h.eq_none_iff, bind_eq_ok_iff]
  cases index[name]? with
  | none => simp [pure, Except.pure]
  | some _ => simp

/-- Every index of the table is in step with its entries. -/
structure InStep (t : IndexedTable) : Prop where
  byColumn : Locates t.byColumn t.entries fun e => some e.column
  byCounterpart : Locates t.byCounterpart t.entries fun e => e.counterpart.column?
  byKey : Locates t.byKey t.entries fun e => e.counterpart.subscript?

theorem inStep_empty (version : String) (mapFields : List MapField) :
    (empty version mapFields).InStep :=
  ⟨.empty, .empty, .empty⟩

theorem enterColumn_eq_ok_iff {column : String}
    (h : Locates t.byColumn t.entries fun e => some e.column) :
    t.enterColumn column = .ok t' ↔
      ((∀ m ∈ t.mapFields, m.name ≠ column) ∧ ∀ d ∈ t.entries, d.column ≠ column) ∧
        { t with byColumn := t.byColumn.insert column t.entries.length } = t' := by
  rw [enterColumn]
  split
  · next hmap =>
      obtain ⟨m, hm, hname⟩ := isMapField_iff_exists_mem.mp hmap
      exact iff_of_false nofun fun hok => hok.1.1 m hm hname
  · next hmap =>
      have hfree : ∀ m ∈ t.mapFields, m.name ≠ column :=
        fun m hm hname => hmap (isMapField_iff_exists_mem.mpr ⟨m, hm, hname⟩)
      rw [enter_eq_ok_iff h, and_iff_right hfree]
      simp only [ne_eq, Option.some.injEq]

theorem enterCounterpart_eq_ok_iff {counterpart : Expr}
    (hcounterpart : Locates t.byCounterpart t.entries fun e => e.counterpart.column?)
    (hkey : Locates t.byKey t.entries fun e => e.counterpart.subscript?) :
    t.enterCounterpart counterpart = .ok t' ↔
      (∃ container key, counterpart.subscript? = some (container, key) ∧
        t.isMapField container = true ∧
        (∀ d ∈ t.entries, d.counterpart.subscript? ≠ some (container, key)) ∧
        { t with byKey := t.byKey.insert (container, key) t.entries.length } = t') ∨
      ∃ name, counterpart.column? = some name ∧
        (∀ d ∈ t.entries, d.counterpart.column? ≠ some name) ∧
        { t with byCounterpart := t.byCounterpart.insert name t.entries.length } = t' := by
  rw [enterCounterpart]
  split
  · next container key hsubscript =>
      rw [hsubscript, Expr.column?_eq_none_of_subscript? hsubscript]
      split
      · next hmap =>
          rw [enter_eq_ok_iff hkey]
          simp [hmap]
      · next hmap => simp [hmap]
  · next hsubscript =>
      rw [hsubscript]
      split
      · next name hname =>
          rw [enter_eq_ok_iff hcounterpart, hname]
          simp
      · next hname => simp [hname]

/-- What a step does: it enters the column of the entry and its counterpart, both of them new. -/
theorem insert_eq_ok_iff (h : t.InStep) :
    t.insert e = .ok t' ↔
      ((∀ m ∈ t.mapFields, m.name ≠ e.column) ∧ ∀ d ∈ t.entries, d.column ≠ e.column) ∧
        ((∃ container key, e.counterpart.subscript? = some (container, key) ∧
            t.isMapField container = true ∧
            (∀ d ∈ t.entries, d.counterpart.subscript? ≠ some (container, key)) ∧
            { t with
              entries := t.entries ++ [e]
              byColumn := t.byColumn.insert e.column t.entries.length
              byKey := t.byKey.insert (container, key) t.entries.length } = t') ∨
          ∃ name, e.counterpart.column? = some name ∧
            (∀ d ∈ t.entries, d.counterpart.column? ≠ some name) ∧
            { t with
              entries := t.entries ++ [e]
              byColumn := t.byColumn.insert e.column t.entries.length
              byCounterpart := t.byCounterpart.insert name t.entries.length } = t') := by
  -- With only its column entered the table is out of step, but the other two indices are not.
  let named : IndexedTable := { t with byColumn := t.byColumn.insert e.column t.entries.length }
  have hnamed (entered : IndexedTable) :
      named.enterCounterpart e.counterpart = .ok entered ↔ _ :=
    enterCounterpart_eq_ok_iff h.byCounterpart h.byKey
  have hinsert : t.insert e = .ok t' ↔ ∃ entered,
      (t.enterColumn e.column >>= (·.enterCounterpart e.counterpart)) = .ok entered ∧
        { entered with entries := entered.entries ++ [e] } = t' := by
    rw [insert]
    cases t.enterColumn e.column >>= (·.enterCounterpart e.counterpart) <;> simp
  simp only [hinsert, bind_eq_ok_iff, enterColumn_eq_ok_iff h.byColumn]
  constructor
  · rintro ⟨entered, ⟨_, ⟨hnew, rfl⟩, hcounterpart⟩, rfl⟩
    refine ⟨hnew, ?_⟩
    rcases (hnamed entered).mp hcounterpart with
      ⟨container, key, hkey, hmap, hfree, rfl⟩ | ⟨name, hname, hfree, rfl⟩
    · exact Or.inl ⟨container, key, hkey, hmap, hfree, rfl⟩
    · exact Or.inr ⟨name, hname, hfree, rfl⟩
  · rintro ⟨hnew, ⟨container, key, hkey, hmap, hfree, rfl⟩ | ⟨name, hname, hfree, rfl⟩⟩
    · have hentered := (hnamed _).mpr (Or.inl ⟨container, key, hkey, hmap, hfree, rfl⟩)
      exact ⟨_, ⟨named, ⟨hnew, rfl⟩, hentered⟩, rfl⟩
    · have hentered := (hnamed _).mpr (Or.inr ⟨name, hname, hfree, rfl⟩)
      exact ⟨_, ⟨named, ⟨hnew, rfl⟩, hentered⟩, rfl⟩

theorem fits_counterpart_iff {t : FieldTable} {counterpart : Expr} :
    (counterpart.IsField t.mapFields ∧
        ∀ d ∈ t.entries, d.counterpart.unquoted ≠ counterpart.unquoted) ↔
      (∃ container key, counterpart.subscript? = some (container, key) ∧
        t.isMapField container = true ∧
        ∀ d ∈ t.entries, d.counterpart.subscript? ≠ some (container, key)) ∨
      ∃ name, counterpart.column? = some name ∧
        ∀ d ∈ t.entries, d.counterpart.column? ≠ some name := by
  constructor
  · rintro ⟨⟨name, hname⟩ | ⟨m, hm, key, hkey⟩, hnew⟩
    · rw [hname] at hnew
      simp only [ne_eq, Expr.unquoted_eq_column_iff] at hname hnew
      exact Or.inr ⟨name, hname, hnew⟩
    · rw [hkey] at hnew
      simp only [ne_eq, Expr.unquoted_eq_subscript_iff] at hkey hnew
      exact Or.inl ⟨m.name, key, hkey, isMapField_iff_exists_mem.mpr ⟨m, hm, rfl⟩, hnew⟩
  · rintro (⟨container, key, hkey, hmap, hnew⟩ | ⟨name, hname, hnew⟩)
    · obtain ⟨m, hm, rfl⟩ := isMapField_iff_exists_mem.mp hmap
      rw [← Expr.unquoted_eq_subscript_iff] at hkey
      simp only [ne_eq, ← Expr.unquoted_eq_subscript_iff] at hnew
      exact ⟨Or.inr ⟨m, hm, key, hkey⟩, hkey ▸ hnew⟩
    · rw [← Expr.unquoted_eq_column_iff] at hname
      simp only [ne_eq, ← Expr.unquoted_eq_column_iff] at hnew
      exact ⟨Or.inl ⟨name, hname⟩, hname ▸ hnew⟩

/-- A step is made just if the entry fits. -/
theorem exists_insert_iff (h : t.InStep) :
    (∃ t', t.insert e = .ok t') ↔ Fits t.toFieldTable e := by
  constructor
  · rintro ⟨t', hinsert⟩
    obtain ⟨⟨hmap, hcolumn⟩, hcounterpart⟩ := (insert_eq_ok_iff h).mp hinsert
    have hnew : e.counterpart.IsField t.mapFields ∧
        ∀ d ∈ t.entries, d.counterpart.unquoted ≠ e.counterpart.unquoted := by
      rw [fits_counterpart_iff]
      rcases hcounterpart with ⟨container, key, hkey, hknown, hfree, -⟩ | ⟨name, hname, hfree, -⟩
      · exact Or.inl ⟨container, key, hkey, hknown, hfree⟩
      · exact Or.inr ⟨name, hname, hfree⟩
    exact ⟨hmap, hnew.1, hcolumn, hnew.2⟩
  · rintro ⟨hmap, hfield, hcolumn, hnew⟩
    simp only [insert_eq_ok_iff h]
    rcases fits_counterpart_iff.mp ⟨hfield, hnew⟩ with
      ⟨container, key, hkey, hknown, hfree⟩ | ⟨name, hname, hfree⟩
    · exact ⟨_, ⟨hmap, hcolumn⟩, Or.inl ⟨container, key, hkey, hknown, hfree, rfl⟩⟩
    · exact ⟨_, ⟨hmap, hcolumn⟩, Or.inr ⟨name, hname, hfree, rfl⟩⟩

/-- A step adds the entry and leaves the rest of the table, and the index stays in step. -/
theorem of_insert (h : t.InStep) (hinsert : t.insert e = .ok t') :
    t'.InStep ∧ t'.toFieldTable = { t.toFieldTable with entries := t.entries ++ [e] } := by
  obtain ⟨⟨-, hnew⟩, hcounterpart⟩ := (insert_eq_ok_iff h).mp hinsert
  have hcolumns := h.byColumn.insert (e := e) rfl (by simpa using hnew)
  rcases hcounterpart with ⟨container, key, hkey, -, hfree, rfl⟩ | ⟨name, hname, hfree, rfl⟩
  · have hnone := Expr.column?_eq_none_of_subscript? hkey
    exact ⟨⟨hcolumns, h.byCounterpart.skip hnone, h.byKey.insert hkey hfree⟩, rfl⟩
  · have hnone := Expr.subscript?_eq_none_of_column? hname
    exact ⟨⟨hcolumns, h.byCounterpart.insert hname hfree, h.byKey.skip hnone⟩, rfl⟩

/-! ### A whole run -/

variable {texts : List EntryText}

theorem insertAll_cons_eq_ok_iff {text : EntryText} :
    t.insertAll (text :: texts) = .ok t' ↔ ∃ e, text.StandsFor e ∧
      ∃ next, t.insert e = .ok next ∧ next.insertAll texts = .ok t' := by
  simp only [insertAll, bind_eq_ok_iff, EntryText.read_eq_ok_iff]

/-- A run adds the entries that the texts stand for and leaves the rest of the table, and the index
stays in step. -/
theorem of_insertAll (h : t.InStep) (hall : t.insertAll texts = .ok t') :
    t'.InStep ∧ ∃ entries, List.Forall₂ EntryText.StandsFor texts entries ∧
      t'.toFieldTable = { t.toFieldTable with entries := t.entries ++ entries } := by
  induction texts generalizing t with
  | nil =>
      obtain rfl := Except.ok.inj hall
      refine ⟨h, [], .nil, ?_⟩
      rw [List.append_nil]
  | cons text rest ih =>
      obtain ⟨e, hstands, next, hinsert, hrest⟩ := insertAll_cons_eq_ok_iff.mp hall
      obtain ⟨hnext, htable⟩ := of_insert h hinsert
      obtain ⟨hlast, entries, hentries, hsame⟩ := ih hnext hrest
      refine ⟨hlast, e :: entries, .cons hstands hentries, ?_⟩
      rw [hsame, htable, List.append_assoc, List.singleton_append]

/-- A run comes to its end just if every text stands for an entry and the entries, behind those that
are there already, are a bijection. -/
theorem exists_insertAll_iff (h : t.InStep) (hbijective : Bijective t.mapFields t.entries) :
    (∃ t', t.insertAll texts = .ok t') ↔ ∃ entries, List.Forall₂ EntryText.StandsFor texts entries ∧
      Bijective t.mapFields (t.entries ++ entries) := by
  induction texts generalizing t with
  | nil =>
      refine iff_of_true ⟨t, rfl⟩ ⟨[], .nil, ?_⟩
      rwa [List.append_nil]
  | cons text rest ih =>
      simp only [insertAll_cons_eq_ok_iff]
      constructor
      · rintro ⟨t', e, hstands, next, hinsert, hrest⟩
        obtain ⟨hnext, htable⟩ := of_insert h hinsert
        have hlonger : Bijective t.mapFields (t.entries ++ [e]) :=
          bijective_concat_iff.mpr ⟨hbijective, (exists_insert_iff h).mp ⟨next, hinsert⟩⟩
        have hih := ih hnext
        rw [htable] at hih
        obtain ⟨entries, hentries, hall⟩ := (hih hlonger).mp ⟨t', hrest⟩
        rw [List.append_assoc, List.singleton_append] at hall
        exact ⟨e :: entries, .cons hstands hentries, hall⟩
      · rintro ⟨all, hforall, hall⟩
        obtain ⟨e, entries, hstands, hentries, rfl⟩ := List.forall₂_cons_left_iff.mp hforall
        -- The entry moves over from the rest to the front, which is a bijection with it.
        rw [← List.singleton_append, ← List.append_assoc] at hall
        have hlonger := hall.of_append
        obtain ⟨next, hinsert⟩ := (exists_insert_iff h).mpr (bijective_concat_iff.mp hlonger).2
        obtain ⟨hnext, htable⟩ := of_insert h hinsert
        have hih := ih hnext
        rw [htable] at hih
        obtain ⟨t', hrest⟩ := (hih hlonger).mpr ⟨entries, hentries, hall⟩
        exact ⟨t', e, hstands, next, hinsert, hrest⟩

/-! ### Look-ups -/

variable {column name container key : String}

theorem InStep.entry?_eq_some_iff (h : t.InStep) :
    t.entry? column = some e ↔ e ∈ t.entries ∧ e.column = column := by
  unfold entry?
  rw [h.byColumn.bind_eq_some_iff, Option.some.injEq]

theorem InStep.entryOfColumn?_eq_some_iff (h : t.InStep) :
    t.entryOfColumn? name = some e ↔ e ∈ t.entries ∧ e.counterpart.unquoted = .column name := by
  rw [entryOfColumn?, h.byCounterpart.bind_eq_some_iff, Expr.unquoted_eq_column_iff]

theorem InStep.entryOfKey?_eq_some_iff (h : t.InStep) :
    t.entryOfKey? container key = some e ↔
      e ∈ t.entries ∧ e.counterpart.unquoted = .subscript (.column container) key := by
  rw [entryOfKey?, h.byKey.bind_eq_some_iff, Expr.unquoted_eq_subscript_iff]

theorem InStep.columnForKey_eq_column (h : t.InStep) (he : e ∈ t.entries)
    (hkey : e.counterpart.unquoted = .subscript (.column container) key) :
    t.columnForKey container key = e.column := by
  rw [columnForKey, h.entryOfKey?_eq_some_iff.mpr ⟨he, hkey⟩]

theorem InStep.columnForKey_eq_flatColumn (h : t.InStep)
    (hnone : ∀ e ∈ t.entries, e.counterpart.unquoted ≠ .subscript (.column container) key) :
    t.columnForKey container key = flatColumn container key := by
  have hentry : t.entryOfKey? container key = none := by
    rw [Option.eq_none_iff_forall_ne_some]
    intro e he
    obtain ⟨hmem, hkey⟩ := h.entryOfKey?_eq_some_iff.mp he
    exact hnone e hmem hkey
  rw [columnForKey, hentry]

/-- The index finds what a search of the entries finds. -/
theorem InStep.lookups_eq (h : t.InStep) :
    t.entry? = t.toFieldTable.entry? ∧ t.entryOfColumn? = t.toFieldTable.entryOfColumn? ∧
      t.columnForKey = t.toFieldTable.columnForKey := by
  refine ⟨?_, ?_, ?_⟩
  · funext column
    unfold entry? FieldTable.entry?
    rw [h.byColumn.bind_eq_find?]
    simp only [Option.some.injEq]
  · funext name
    exact h.byCounterpart.bind_eq_find?
  · funext container key
    have hentry : t.entryOfKey? container key = t.toFieldTable.entryOfKey? container key :=
      h.byKey.bind_eq_find?
    rw [columnForKey, hentry]
    rfl

/-! ### Tables that are built -/

/-- A written table is accepted just if its texts stand for entries that are a bijection between
columns and fields.  The table that is built has these entries, and it finds each of them by its
column as well as by its counterpart, with the index and without. -/
theorem build_bijective (text : TableText) :
    ((∃ t, build text = .ok t) ↔ ∃ entries, List.Forall₂ EntryText.StandsFor text.entries entries ∧
        Bijective text.mapColumns entries) ∧
      ∀ t, build text = .ok t →
        (t.version = text.version ∧ t.mapFields = text.mapColumns ∧
          List.Forall₂ EntryText.StandsFor text.entries t.entries) ∧
        (∀ column e, t.entry? column = some e ↔ e ∈ t.entries ∧ e.column = column) ∧
        (∀ name e, t.entryOfColumn? name = some e ↔
          e ∈ t.entries ∧ e.counterpart.unquoted = .column name) ∧
        (∀ container key,
          (∀ e ∈ t.entries, e.counterpart.unquoted = .subscript (.column container) key →
            t.columnForKey container key = e.column) ∧
          ((∀ e ∈ t.entries, e.counterpart.unquoted ≠ .subscript (.column container) key) →
            t.columnForKey container key = flatColumn container key)) ∧
        t.entry? = t.toFieldTable.entry? ∧ t.entryOfColumn? = t.toFieldTable.entryOfColumn? ∧
          t.columnForKey = t.toFieldTable.columnForKey := by
  have hstart := inStep_empty text.version text.mapColumns
  constructor
  · exact exists_insertAll_iff hstart ⟨nofun, nofun, .nil, .nil⟩
  · intro t hbuild
    obtain ⟨h, entries, hentries, htable⟩ := of_insertAll hstart hbuild
    have hsame : t.entries = entries := by
      rw [htable]
      rfl
    have hversion : t.version = text.version := by
      rw [htable]
      rfl
    have hmaps : t.mapFields = text.mapColumns := by
      rw [htable]
      rfl
    refine ⟨⟨hversion, hmaps, hsame ▸ hentries⟩, fun _ _ => h.entry?_eq_some_iff,
      fun _ _ => h.entryOfColumn?_eq_some_iff, fun container key => ⟨?_, ?_⟩, h.lookups_eq⟩
    · exact fun e he hkey => h.columnForKey_eq_column he hkey
    · exact h.columnForKey_eq_flatColumn

/-- A column that keeps its name, and a key of a column between quotes. -/
def quotedKeyText : TableText :=
  ⟨"1", [("product", "varchar")], [⟨"usage", none, "double", true⟩,
    ⟨"product_region", some "\"product\"['region']", "varchar", false⟩]⟩

/-- The entries of that table. -/
def quotedKeyEntries : List FieldEntry :=
  [⟨"usage", .column "usage", .double, true⟩,
    ⟨"product_region", .subscript (.quoted "product") "region", .varchar, false⟩]

theorem standsFor_quotedKeyText :
    List.Forall₂ EntryText.StandsFor quotedKeyText.entries quotedKeyEntries := by
  refine .cons ?_ (.cons ?_ .nil)
  · exact EntryText.read_eq_ok_iff.mp (by decide +kernel)
  · exact EntryText.read_eq_ok_iff.mp (by decide +kernel)

theorem bijective_quotedKeyText : Bijective quotedKeyText.mapColumns quotedKeyEntries := by
  refine ⟨by decide +kernel, ?_, by decide +kernel, by decide +kernel⟩
  have hproduct : (⟨"product", .varchar⟩ : MapField) ∈ quotedKeyText.mapColumns := by
    decide +kernel
  rw [quotedKeyEntries, List.forall_mem_cons, List.forall_mem_singleton]
  exact ⟨Or.inl ⟨"usage", rfl⟩, Or.inr ⟨_, hproduct, "region", rfl⟩⟩

theorem build_bijective_at_quoted_key :
    ∃ t, build quotedKeyText = .ok t ∧ t.entries = quotedKeyEntries ∧
      t.entryOfColumn? "usage" = some ⟨"usage", .column "usage", .double, true⟩ ∧
      t.columnForKey "product" "region" = "product_region" ∧
      t.columnForKey "product" "tier" = "product_tier" := by
  obtain ⟨haccepted, hbuilt⟩ := build_bijective quotedKeyText
  obtain ⟨t, ht⟩ := haccepted.mpr ⟨_, standsFor_quotedKeyText, bijective_quotedKeyText⟩
  obtain ⟨⟨-, -, hentries⟩, -, hcolumn, hkey, -⟩ := hbuilt t ht
  have hsame : t.entries = quotedKeyEntries :=
    Relator.RightUnique.forall₂ EntryText.StandsFor.rightUnique hentries standsFor_quotedKeyText
  rw [hsame] at hcolumn hkey
  refine ⟨t, ht, hsame, (hcolumn "usage" _).mpr ⟨List.mem_cons_self, rfl⟩, ?_, ?_⟩
  · exact (hkey "product" "region").1 _ (List.mem_cons_of_mem _ List.mem_cons_self) rfl
  · exact (hkey "product" "tier").2 (by decide +kernel)

end IndexedTable
end CostView
