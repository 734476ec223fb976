import CostView.Binary64.Basic
import CostView.Text.Quoted

/-!
# Field expressions

The expressions by which fields of a report are named and derived: column references, values of a
map column at a key, calls and literals.  There are no operators.
-/

namespace CostView

/-- A constant in an expression. -/
inductive Literal where
  | text (value : String)
  | integer (value : Int)
  | float (value : Binary64)
deriving DecidableEq, Repr

/-- A field expression. -/
inductive Expr where
  | column (name : String)
  | quoted (name : String)
  | subscript (container : Expr) (key : String)
  | call (name : String) (arguments : List Expr)
  | literal (value : Literal)
deriving Repr

/-- A text as a literal, its quotes doubled. -/
def quoteText (s : String) : String :=
  String.ofList (Text.Quoted.enclose '\'' s.toList)

/-- The text `container['key']`, with the container as it stands. -/
def subscriptText (container key : String) : String :=
  container ++ "[" ++ quoteText key ++ "]"

namespace Expr

mutual

/-- Equality of expressions is decided side by side with that of argument lists. -/
def decEq : (a b : Expr) → Decidable (a = b)
  | .column m, .column n =>
    if h : m = n then isTrue (h ▸ rfl) else isFalse fun e => h (Expr.column.inj e)
  | .quoted m, .quoted n =>
    if h : m = n then isTrue (h ▸ rfl) else isFalse fun e => h (Expr.quoted.inj e)
  | .subscript a k, .subscript b l =>
    match decEq a b with
    | isTrue h =>
      if hk : k = l then isTrue (h ▸ hk ▸ rfl)
      else isFalse fun e => hk (Expr.subscript.inj e).2
    | isFalse h => isFalse fun e => h (Expr.subscript.inj e).1
  | .call m as, .call n bs =>
    if hn : m = n then
      match decEqList as bs with
      | isTrue h => isTrue (hn ▸ h ▸ rfl)
      | isFalse h => isFalse fun e => h (Expr.call.inj e).2
    else isFalse fun e => hn (Expr.call.inj e).1
  | .literal x, .literal y =>
    if h : x = y then isTrue (h ▸ rfl) else isFalse fun e => h (Expr.literal.inj e)
  | .column _, .quoted _ | .column _, .subscript _ _ | .column _, .call _ _
  | .column _, .literal _ | .quoted _, .column _ | .quoted _, .subscript _ _
  | .quoted _, .call _ _ | .quoted _, .literal _ | .subscript _ _, .column _
  | .subscript _ _, .quoted _ | .subscript _ _, .call _ _ | .subscript _ _, .literal _
  | .call _ _, .column _ | .call _ _, .quoted _ | .call _ _, .subscript _ _
  | .call _ _, .literal _ | .literal _, .column _ | .literal _, .quoted _
  | .literal _, .subscript _ _ | .literal _, .call _ _ => isFalse nofun

/-- Equality of argument lists. -/
def decEqList : (as bs : List Expr) → Decidable (as = bs)
  | [], [] => isTrue rfl
  | a :: as, b :: bs =>
    match decEq a b with
    | isTrue h =>
      match decEqList as bs with
      | isTrue hs => isTrue (h ▸ hs ▸ rfl)
      | isFalse hs => isFalse fun e => hs (List.cons.inj e).2
    | isFalse h => isFalse fun e => h (List.cons.inj e).1
  | [], _ :: _ | _ :: _, [] => isFalse nofun

end

instance : DecidableEq Expr := decEq

/-- Container column and key of a subscript that stands directly on a column. -/
def subscript? : Expr → Option (String × String)
  | .subscript (.column c) key | .subscript (.quoted c) key => some (c, key)
  | _ => none

/-- The name of a column reference, quoted or not. -/
def column? : Expr → Option String
  | .column name | .quoted name => some name
  | _ => none

theorem column?_eq_none_of_subscript? {e : Expr} {p : String × String}
    (h : e.subscript? = some p) : e.column? = none := by
  cases e with
  | subscript _ _ => rfl
  | _ => cases h

theorem subscript?_eq_none_of_column? {e : Expr} {name : String} (h : e.column? = some name) :
    e.subscript? = none := by
  cases e with
  | subscript _ _ => cases h
  | _ => rfl

mutual

/-- The columns that an expression reads, in order of appearance. -/
def columns : Expr → List String
  | .column name | .quoted name => [name]
  | .subscript container _ => container.columns
  | .call _ arguments => columnsOfList arguments
  | .literal _ => []

/-- The columns that the arguments of a call read. -/
def columnsOfList : List Expr → List String
  | [] => []
  | e :: rest => e.columns ++ columnsOfList rest

end

mutual

/-- What has to exist for an expression to have a value: its columns, but a subscript that stands
directly on a column is kept as one requirement `container['key']`. -/
def requirements : Expr → List String
  | .column name | .quoted name => [name]
  | .subscript (.column c) key | .subscript (.quoted c) key => [subscriptText c key]
  | .subscript container _ => container.columns
  | .call _ arguments => requirementsOfList arguments
  | .literal _ => []

/-- What the arguments of a call require. -/
def requirementsOfList : List Expr → List String
  | [] => []
  | e :: rest => e.requirements ++ requirementsOfList rest

end

end Expr

end CostView
