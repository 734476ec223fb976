import CostView.Expression.Basic

/-!
# Column names in SQL text

A name of lower-case ASCII letters, digits and underscores that does not start with a digit stands
bare; any other name has to stand between double quotes.  Names that end like a reserved word are
sensitive: engines read them wrongly when they stand bare.
-/

namespace CostView.Column

/-- The characters of names that need no quotes. -/
def isPlainChar (c : Char) : Bool :=
  c.isLower || c.isDigit || c = '_'

/-- Whether a name has to stand between double quotes to be referred to. -/
def needsQuoting (name : String) : Bool :=
  match name.toList with
  | [] => true
  | first :: rest => first.isDigit || !(first :: rest).all isPlainChar

/-- The endings of names that read like a reserved word. -/
def reservedEndings : List String := ["_interval"]

/-- Whether a name ends like a reserved word. -/
def isSensitive (name : String) : Bool :=
  reservedEndings.any fun ending => ending.toList.isSuffixOf name.toList

/-- A name between double quotes, its quotes doubled. -/
def quoted (name : String) : String :=
  String.ofList (Text.Quoted.enclose '"' name.toList)

/-- The text of a reference to a column, between quotes only where its characters need them. -/
def reference (name : String) : String :=
  if needsQuoting name then quoted name else name

/-- The name that a view gives to a column.  A sensitive name is put between quotes as it stands. -/
def aliasText (name : String) : String :=
  if isSensitive name then "\"" ++ name ++ "\"" else reference name

/-- The expression that reads the column of a given name. -/
def expr (name : String) : Expr :=
  if isSensitive name || needsQuoting name then .quoted name else .column name

end CostView.Column
