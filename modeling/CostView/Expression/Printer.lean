import CostView.Expression.Basic
import CostView.Binary64.Shortest
import CostView.Text.Blank

/-!
# Expressions as text

Column names stand bare or between double quotes, keys and text literals between single quotes, and
the arguments of a call are separated by a comma and a space.
-/

namespace CostView

/-- An integer in decimal notation. -/
def integerText : Int → List Char
  | .ofNat n => Nat.toDigits 10 n
  | .negSucc n => '-' :: Nat.toDigits 10 (n + 1)

/-- The text of a constant. -/
def Literal.print : Literal → List Char
  | .text s => Text.Quoted.enclose '\'' s.toList
  | .integer n => integerText n
  | .float x => x.text

namespace Expr

mutual

/-- The text of an expression. -/
def print : Expr → List Char
  | .column name => name.toList
  | .quoted name => Text.Quoted.enclose '"' name.toList
  | .subscript container key =>
    container.print ++ '[' :: (Text.Quoted.enclose '\'' key.toList ++ [']'])
  | .call name arguments => name.toList ++ '(' :: (printArguments arguments ++ [')'])
  | .literal value => value.print

/-- The texts of the arguments of a call, separated by `, `. -/
def printArguments : List Expr → List Char
  | [] => []
  | [e] => e.print
  | e :: rest => e.print ++ ',' :: ' ' :: printArguments rest

end

/-- The text of an expression. -/
def sql (e : Expr) : String :=
  String.ofList e.print

@[simp] theorem toList_sql (e : Expr) : e.sql.toList = e.print := by
  simp [sql]

end Expr

end CostView
