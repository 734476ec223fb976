import CostView.Text.Blank

/-!
# Types of report columns

Catalogs report the type of a column as free text.  Four kinds of type matter, because they have a
typed NULL; every other text is kept as it is, less the blanks around it.  Reading never fails.
-/

namespace CostView

/-- The type of a column. -/
inductive SqlType where
  | varchar
  | double
  | timestamp
  | map (value : SqlType)
  | other (text : String)
deriving DecidableEq, Repr

namespace SqlType

/-- The brackets that open the parameters of a type. -/
def isOpening (c : Char) : Bool :=
  c = '(' || c = '<'

/-- The brackets that close the parameters of a type. -/
def isClosing (c : Char) : Bool :=
  c = ')' || c = '>'

/-- What stands after the first opening bracket, without the closing brackets at the end. -/
def parameters (s : List Char) : List Char :=
  (((s.dropWhile (!isOpening ·)).drop 1).reverse.dropWhile isClosing).reverse

/-- The text of the value type of a map type: its parameters after their first comma. -/
def mapValue? (s : List Char) : Option (List Char) :=
  match (parameters s).dropWhile (· ≠ ',') with
  | [] => none
  | _ :: value => some value

theorem length_parameters_le (s : List Char) : (parameters s).length ≤ s.length := by
  have h1 := Text.length_dropWhile_le (!isOpening ·) s
  have h2 := Text.length_dropWhile_le isClosing ((s.dropWhile (!isOpening ·)).drop 1).reverse
  simp only [parameters, List.length_reverse, List.length_drop] at h2 ⊢
  omega

theorem mapValue?_shorter {s v : List Char} (h : mapValue? s = some v) : v.length < s.length := by
  unfold mapValue? at h
  split at h
  · simp at h
  · rename_i hsplit
    obtain rfl := Option.some.inj h
    have h1 := length_parameters_le s
    have h2 := Text.length_dropWhile_le (· ≠ ',') (parameters s)
    simp only [hsplit, List.length_cons] at h2
    omega

/-- The name of a type without its parameters, in lower case. -/
def baseName (s : List Char) : String :=
  String.ofList (Text.trim (s.takeWhile (!isOpening ·)))

/-- The type that a text names.  A map without a readable value type has text values. -/
def ofChars (s : List Char) : SqlType :=
  let named := Text.lower (Text.trim s)
  match baseName named with
  | "varchar" | "string" | "char" => .varchar
  | "double" => .double
  | "timestamp" => .timestamp
  | "map" =>
    match _ : mapValue? named with
    | some value => .map (ofChars value)
    | none => .map .varchar
  | _ => .other (String.ofList (Text.trim s))
termination_by s.length
decreasing_by
  have h1 : value.length < named.length := mapValue?_shorter ‹_›
  have h2 : (Text.trim s).length ≤ s.length := Text.length_trimBoth_le Text.isBlank s
  simp only [named, Text.lower, List.length_map] at h1
  omega

/-- The type that a text names. -/
def parse (text : String) : SqlType :=
  ofChars text.toList

/-- The text of a type. -/
def text : SqlType → String
  | .varchar => "varchar"
  | .double => "double"
  | .timestamp => "timestamp"
  | .map value => "map(varchar, " ++ value.text ++ ")"
  | .other text => text

/-- Whether a type is a map. -/
def isMap : SqlType → Bool
  | .map _ => true
  | _ => false

/-- The typed NULL for texts. -/
def nullVarchar : String := "cast(null as varchar)"

/-- The typed NULL for every map. -/
def nullMap : String := "cast(NULL AS MAP<VARCHAR, VARCHAR>)"

/-- The typed NULL of a type, if it has one. -/
def nullLiteral? : SqlType → Option String
  | .varchar => some nullVarchar
  | .double => some "cast(null as double)"
  | .timestamp => some "cast(null as timestamp)"
  | .map _ => some nullMap
  | .other _ => none

end SqlType

end CostView
