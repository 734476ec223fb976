import CostView.Proofs.StateGrowth
import Mathlib.Order.Bounds.Basic

/-!
# The order of states

A state is below another if exposing something leads from the first to the second.  That is a
partial order, and above each state it has joins: two extensions of one state have the extension by
the union as their least upper bound.  All of this rests on one fact, that exposures are covered
just if adding them changes nothing.  It holds of every state, also where keys were recorded
without their column: these are not contained, and to add one of them does add its column.

Inserting columns and recording keys may lead elsewhere in this order, since a type may be replaced
and keys may come without their column.  What all writes have in common is weaker: what was
contained stays contained, and where a type was known one is known.
-/

namespace CostView
namespace ViewState

variable {s t u : ViewState} {xs ys : List Exposure}

/-! ### What is covered -/

theorem contains_extend_of_mem {x : Exposure} (h : x ∈ xs) : (s.extend xs).contains x = true := by
  rw [contains_iff, hasColumn_extend]
  refine ⟨Or.inr ⟨x, h, rfl⟩, fun key hkey => mem_keysOf_extend.mpr (Or.inr ?_)⟩
  rwa [Exposure.ofKey, ← hkey]

theorem covers_extend : (s.extend xs).covers xs = true :=
  covers_iff.mpr fun _ hx => contains_extend_of_mem hx

/-- Exposures are covered just if adding them changes nothing. -/
theorem covers_iff_extend_eq : s.covers xs = true ↔ s.extend xs = s := by
  constructor
  · intro h
    exact extend_of_contains (covers_iff.mp h)
  · intro h
    rw [← h]
    exact covers_extend

theorem covers_append :
    s.covers (xs ++ ys) = true ↔ s.covers xs = true ∧ s.covers ys = true := by
  rw [covers, covers, covers, List.all_append, Bool.and_eq_true]

/-! ### Extensions of one state -/

theorem extend_comm : (s.extend xs).extend ys = (s.extend ys).extend xs := by
  rw [← extend_append, ← extend_append]
  exact extend_congr fun x => by rw [List.mem_append, List.mem_append, or_comm]

theorem extend_union : s.extend (xs ∪ ys) = (s.extend xs).extend ys := by
  rw [← extend_append]
  exact extend_congr fun x => by rw [List.mem_union_iff, List.mem_append]

/-! ### The order -/

instance : PartialOrder ViewState where
  le s t := ∃ xs, s.extend xs = t
  le_refl s := ⟨[], rfl⟩
  le_trans s t u := by
    rintro ⟨xs, rfl⟩ ⟨ys, rfl⟩
    exact ⟨xs ++ ys, extend_append⟩
  le_antisymm s t := by
    rintro ⟨xs, rfl⟩ ⟨ys, hback⟩
    -- The way there and back changes nothing, so it is covered, and so is the way there.
    rw [← extend_append, ← covers_iff_extend_eq, covers_append] at hback
    exact (covers_iff_extend_eq.mp hback.1).symm

/-- An extension is the least state above that covers what was added. -/
theorem extend_le_iff : s.extend xs ≤ t ↔ s ≤ t ∧ t.covers xs = true := by
  constructor
  · rintro ⟨ys, rfl⟩
    refine ⟨⟨xs ++ ys, extend_append⟩, ?_⟩
    rw [extend_comm]
    exact covers_extend
  · rintro ⟨⟨ys, rfl⟩, hcovers⟩
    refine ⟨ys, ?_⟩
    rw [extend_comm]
    exact covers_iff_extend_eq.mp hcovers

/-- Two extensions of one state have the extension by the union as their least upper bound. -/
theorem isLUB_extend : IsLUB {s.extend xs, s.extend ys} (s.extend (xs ∪ ys)) := by
  rw [isLUB_iff_le_iff]
  intro t
  rw [extend_union, extend_le_iff, extend_le_iff, mem_upperBounds]
  simp only [Set.mem_insert_iff, Set.mem_singleton_iff, forall_eq_or_imp, forall_eq, extend_le_iff]
  tauto

/-! ### What every write keeps -/

/-- What one state contains another contains, and where the one knows a type so does the other. -/
structure KeptBy (s t : ViewState) : Prop where
  contains : ∀ x, s.contains x = true → t.contains x = true
  typed : ∀ column, s.columnType? column ≠ none → t.columnType? column ≠ none

theorem KeptBy.refl (s : ViewState) : s.KeptBy s :=
  ⟨fun _ hx => hx, fun _ htype => htype⟩

theorem KeptBy.trans (h₁ : s.KeptBy t) (h₂ : t.KeptBy u) : s.KeptBy u :=
  ⟨fun x hx => h₂.contains x (h₁.contains x hx),
    fun column htype => h₂.typed column (h₁.typed column htype)⟩

theorem keptBy_insertColumn (s : ViewState) (name : String) (type : Option SqlType) :
    s.KeptBy (s.insertColumn name type) where
  contains x hx := by
    obtain ⟨hcolumn, hkey⟩ := contains_iff.mp hx
    exact contains_iff.mpr ⟨hasColumn_insertColumn.mpr (Or.inr hcolumn), hkey⟩
  typed column htype := by
    rw [columnType?_insertColumn]
    split
    · next hname =>
        subst hname
        cases type with
        | none => exact htype
        | some _ => exact Option.some_ne_none _
    · exact htype

theorem keptBy_insertKeys (s : ViewState) (column : String) (keys : List String) :
    s.KeptBy (s.insertKeys column keys) where
  contains x hx := by
    obtain ⟨hcolumn, hkey⟩ := contains_iff.mp hx
    exact contains_iff.mpr
      ⟨hcolumn, fun key hx => mem_keysOf_insertKeys.mpr (Or.inr (hkey key hx))⟩
  typed _ htype := htype

/-- To expose something is to insert a column and perhaps to record a key. -/
theorem keptBy_expose (s : ViewState) (x : Exposure) : s.KeptBy (s.expose x) := by
  have hcolumn : s.KeptBy (s.insertColumn x.column none) := keptBy_insertColumn s x.column none
  obtain ⟨column, _ | key⟩ := x
  · exact hcolumn
  · exact hcolumn.trans (keptBy_insertKeys _ column [key])

theorem keptBy_extend (s : ViewState) (xs : List Exposure) : s.KeptBy (s.extend xs) := by
  induction xs generalizing s with
  | nil => exact .refl s
  | cons x xs ih => exact (keptBy_expose s x).trans (ih (s.expose x))

/-- A call that writes to a state. -/
inductive Update where
  | extend (xs : List Exposure)
  | insertColumn (name : String) (type : Option SqlType)
  | insertKeys (column : String) (keys : List String)

/-- The state after a call. -/
def update (s : ViewState) : Update → ViewState
  | .extend xs => s.extend xs
  | .insertColumn name type => s.insertColumn name type
  | .insertKeys column keys => s.insertKeys column keys

/-- The state after some calls. -/
def updates (s : ViewState) (calls : List Update) : ViewState :=
  calls.foldl update s

theorem keptBy_update (s : ViewState) (call : Update) : s.KeptBy (s.update call) := by
  cases call with
  | extend xs => exact keptBy_extend s xs
  | insertColumn name type => exact keptBy_insertColumn s name type
  | insertKeys column keys => exact keptBy_insertKeys s column keys

/-- By induction on the calls, each of which keeps what the ones before it kept. -/
theorem keptBy_updates (s : ViewState) (calls : List Update) : s.KeptBy (s.updates calls) := by
  induction calls generalizing s with
  | nil => exact .refl s
  | cons call calls ih => exact (keptBy_update s call).trans (ih (s.update call))

/-- The extensions of a state form a join semilattice.  It matters neither in which order
exposures are added nor how often; to add some and then others is to add the others first and is to
add the union, which is the join; and they are covered just if adding them changes nothing.  No
calls that write to the state, of whatever kind, make an exposure that it contains not contained
or a known type unknown. -/
theorem extend_join_semilattice (s : ViewState) :
    (∀ xs ys : List Exposure, (∀ x, x ∈ xs ↔ x ∈ ys) → s.extend xs = s.extend ys) ∧
    (∀ xs ys : List Exposure,
      (s.extend xs).extend ys = (s.extend ys).extend xs ∧
      (s.extend xs).extend ys = s.extend (xs ∪ ys) ∧
      IsLUB {s.extend xs, s.extend ys} (s.extend (xs ∪ ys))) ∧
    (∀ xs : List Exposure, s.covers xs = true ↔ s.extend xs = s) ∧
    ∀ calls : List Update, s.KeptBy (s.updates calls) := by
  refine ⟨fun xs ys hsame => extend_congr hsame, fun xs ys => ⟨?_, ?_, ?_⟩, fun xs => ?_,
    fun calls => ?_⟩
  · exact extend_comm
  · exact extend_union.symm
  · exact isLUB_extend
  · exact covers_iff_extend_eq
  · exact keptBy_updates s calls

/-- A key that was recorded without its column is not contained, so it is added with its column. -/
theorem extend_join_semilattice_at_lone_key :
    let s := (empty.insertKeys "product" ["region"]).insertColumn "bill_type" (some .varchar)
    let region : Exposure := .ofKey "product" "region"
    let vcpu : Exposure := .ofKey "product" "vcpu"
    (∀ x, x ∈ [region, vcpu, region] ↔ x ∈ [vcpu, region]) ∧
      s.extend [region, vcpu, region] = s.extend [vcpu, region] ∧
      s.extend [region] ≠ s ∧
      IsLUB {s.extend [region], s.extend [vcpu]} (s.extend [region, vcpu]) ∧
      (s.updates [.insertColumn "bill_type" none, .extend [vcpu]]).contains
        (.ofColumn "bill_type") = true := by
  intro s region vcpu
  obtain ⟨hcongr, hjoin, hcovers, hkept⟩ := extend_join_semilattice s
  have hsame : ∀ x, x ∈ [region, vcpu, region] ↔ x ∈ [vcpu, region] := by
    intro x
    simp only [List.mem_cons, List.not_mem_nil, or_false]
    tauto
  have hlone : ¬ s.covers [region] = true := by decide +kernel
  have hbill : s.contains (.ofColumn "bill_type") = true := by decide +kernel
  refine ⟨hsame, hcongr _ _ hsame, fun hstays => hlone ((hcovers _).mpr hstays), ?_,
    (hkept _).contains _ hbill⟩
  have hunion : [region] ∪ [vcpu] = [region, vcpu] := by decide +kernel
  rw [← hunion]
  exact (hjoin _ _).2.2

end ViewState
end CostView
