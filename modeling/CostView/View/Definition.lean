import CostView.Column
import CostView.Expression.Printer
import CostView.SqlType

/-!
# The definition of a view

A view selects columns of its source.  Each of them is an expression, a typed NULL, or a map that is
written as an array of keys and an array of values.  Engines limit the number of elements of a
literal array, so longer arrays are concatenations of chunks.
-/

namespace CostView

/-- The most elements that an engine accepts in a literal array. -/
def chunkSize : Nat := 254

/-- A list cut into pieces of `n` elements, the last of which may be shorter. -/
def chunks {α : Type} (n : Nat) (xs : List α) : List (List α) :=
  if _ : xs = [] ∨ n = 0 then []
  else xs.take n :: chunks n (xs.drop n)
termination_by xs.length
decreasing_by
  have hxs : ¬(xs = [] ∨ n = 0) := ‹_›
  have := List.length_pos_iff.2 fun e => hxs (.inl e)
  rw [List.length_drop]
  omega

/-- Texts joined by a separator. -/
def joined (separator : String) (texts : List String) : String :=
  String.intercalate separator texts

/-- Elements as a concatenation of literal arrays. -/
def arrayText (separator : String) (elements : List String) : String :=
  joined " || " ((chunks chunkSize elements).map fun chunk =>
    "ARRAY[" ++ joined separator chunk ++ "]")

/-- A map with the given texts of keys and values. -/
def mapText (keys values : List String) : String :=
  "MAP(" ++ arrayText "," keys ++ ", " ++ arrayText ", " values ++ ")"

/-- The value of a key in an assembled map. -/
inductive Cell where
  | column (name : String)
  | null (literal : String)
deriving DecidableEq, Repr

/-- The text of a value in an assembled map. -/
def Cell.text : Cell → String
  | .column name => Column.reference name
  | .null literal => literal

/-- What a column of a view holds. -/
inductive ColumnValue where
  | expr (e : Expr)
  | null (literal : String)
  | map (cells : List (String × Cell))
deriving DecidableEq, Repr

/-- The text of what a column holds. -/
def ColumnValue.text : ColumnValue → String
  | .expr e => e.sql
  | .null literal => literal
  | .map cells => mapText (cells.map fun c => quoteText c.1) (cells.map fun c => c.2.text)

/-- A column of a view. -/
structure SelectItem where
  column : String
  value : ColumnValue
deriving DecidableEq, Repr

/-- The text of a column of a view. -/
def SelectItem.text (item : SelectItem) : String :=
  item.value.text ++ " AS " ++ Column.aliasText item.column

/-- The definition of a view over a source table. -/
structure ViewDefinition where
  view : String
  items : List SelectItem
  source : String
deriving DecidableEq, Repr

/-- The statement that creates a view or replaces it. -/
def ViewDefinition.sql (d : ViewDefinition) : String :=
  "CREATE OR REPLACE VIEW " ++ d.view ++ " AS SELECT " ++
    joined ", " (d.items.map SelectItem.text) ++ " FROM " ++ d.source

end CostView
