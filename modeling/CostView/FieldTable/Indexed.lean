import CostView.FieldTable.Basic
import Std.Data.HashMap

/-!
# Tables with an index

While a table is built from its written entries it keeps the places of the entries by each of their
names: the column of generation one, and the column or the key of generation two.  A name that has a
place already refuses the entry, so `IndexedTable.build` accepts just the tables that can be read in
both directions, and a look-up in them does not search.
-/

namespace CostView

open FieldTable (EntryError EntryFault EntryText TableText)

/-- A table with the places of its entries. -/
structure IndexedTable extends FieldTable where
  byColumn : Std.HashMap String Nat
  byCounterpart : Std.HashMap String Nat
  byKey : Std.HashMap (String × String) Nat

namespace IndexedTable

/-- A table without entries. -/
def empty (version : String) (mapFields : List MapField) : IndexedTable :=
  ⟨⟨version, mapFields, []⟩, ∅, ∅, ∅⟩

/-- The entry of a column of generation one. -/
def entry? (t : IndexedTable) (column : String) : Option FieldEntry :=
  t.byColumn[column]?.bind fun place => t.entries[place]?

/-- The entry whose counterpart is the given column of generation two. -/
def entryOfColumn? (t : IndexedTable) (name : String) : Option FieldEntry :=
  t.byCounterpart[name]?.bind fun place => t.entries[place]?

/-- The entry whose counterpart is the given key of a map column. -/
def entryOfKey? (t : IndexedTable) (container key : String) : Option FieldEntry :=
  t.byKey[(container, key)]?.bind fun place => t.entries[place]?

/-- The column of generation one that holds the value of a key. -/
def columnForKey (t : IndexedTable) (container key : String) : String :=
  match t.entryOfKey? container key with
  | some e => e.column
  | none => flatColumn container key

/-- The index with the place of one more name, which must not have a place already. -/
def enter {κ : Type} [BEq κ] [Hashable κ] (index : Std.HashMap κ Nat) (name : κ) (place : Nat)
    (fault : EntryFault) : Except EntryFault (Std.HashMap κ Nat) :=
  let (known, entered) := index.containsThenInsert name place
  if known then .error fault else .ok entered

/-- The table with the place of the next entry entered for its column. -/
def enterColumn (t : IndexedTable) (column : String) : Except EntryFault IndexedTable :=
  if t.isMapField column then .error .namedLikeMap
  else do
    let byColumn ← enter t.byColumn column t.entries.length .duplicateColumn
    return { t with byColumn }

/-- The table with the place of the next entry entered for its counterpart. -/
def enterCounterpart (t : IndexedTable) (counterpart : Expr) : Except EntryFault IndexedTable :=
  match counterpart.subscript? with
  | some (container, key) =>
    if t.isMapField container then do
      let byKey ← enter t.byKey (container, key) t.entries.length .duplicateKey
      return { t with byKey }
    else .error (.unknownMap container)
  | none =>
    match counterpart.column? with
    | some name => do
      let byCounterpart ← enter t.byCounterpart name t.entries.length .duplicateCounterpart
      return { t with byCounterpart }
    | none => .error .noCounterpart

/-- The table with one more entry at its end. -/
def insert (t : IndexedTable) (e : FieldEntry) : Except EntryError IndexedTable :=
  match t.enterColumn e.column >>= (·.enterCounterpart e.counterpart) with
  | .ok entered => .ok { entered with entries := entered.entries ++ [e] }
  | .error fault => .error ⟨e.column, fault⟩

/-- The table with written entries appended in order; the first that is refused is the error. -/
def insertAll (t : IndexedTable) : List EntryText → Except EntryError IndexedTable
  | [] => .ok t
  | text :: rest => do
    let e ← text.read
    let t' ← t.insert e
    t'.insertAll rest

/-- The table that a written one stands for. -/
def build (text : TableText) : Except EntryError IndexedTable :=
  (empty text.version text.mapColumns).insertAll text.entries

end IndexedTable

end CostView
