import Std.Data.ExtTreeSet

/-!
# What a view exposes

An exposure is a column of a view, or one key inside a map column.  Exposures are ordered by
column; the column itself comes before its keys.
-/

namespace CostView

/-- A column, or a key inside a map column. -/
structure Exposure where
  column : String
  key : Option String
deriving DecidableEq, Repr

namespace Exposure

instance : Ord Exposure := ⟨compareLex (compareOn Exposure.column) (compareOn Exposure.key)⟩

instance : Std.TransOrd Exposure :=
  inferInstanceAs (Std.TransCmp (compareLex (compareOn Exposure.column) (compareOn Exposure.key)))

instance : Std.LawfulEqOrd Exposure where
  eq_of_compare {a b} h := by
    obtain ⟨h1, h2⟩ := compareLex_eq_eq.1 h
    cases a; cases b
    simp only [compareOn] at h1 h2
    simp_all [Std.LawfulEqOrd.eq_of_compare h1, Std.LawfulEqOrd.eq_of_compare h2]

/-- A whole column. -/
def ofColumn (name : String) : Exposure := ⟨name, none⟩

/-- A key inside a map column. -/
def ofKey (column key : String) : Exposure := ⟨column, some key⟩

end Exposure

end CostView
