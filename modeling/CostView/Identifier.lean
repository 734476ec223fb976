import CostView.Expression.Parser

/-!
# Field identifiers that are refused

Fields are named by expressions, in the equivalence table as well as in requests.  Not every
expression names a field, and the reason is part of the answer.
-/

namespace CostView

/-- Why a text names no field. -/
inductive IdentifierFault where
  | unreadable (error : Expr.SyntaxError)
  | notMap (container : String)
  | call
  | notField
deriving DecidableEq, Repr

/-- The reason given for a fault. -/
def IdentifierFault.reason : IdentifierFault → String
  | .unreadable error => error.reason
  | .notMap container => "'" ++ container ++ "' is not a map field"
  | .call => "expressions cannot be requested as fields"
  | .notField => "expected a column name or container['key']"

/-- A text that names no field, and why. -/
structure IdentifierError where
  text : String
  fault : IdentifierFault
deriving DecidableEq, Repr

/-- The message about a text that names no field. -/
def IdentifierError.message (e : IdentifierError) : String :=
  "Invalid field identifier '" ++ e.text ++ "': " ++ e.fault.reason

/-- Read a text as an expression, keeping the text in the error. -/
def readIdentifier (text : String) : Except IdentifierError Expr :=
  match Expr.parse text with
  | .ok e => .ok e
  | .error e => .error ⟨text, .unreadable e⟩

end CostView
