/-!
# JSON values

Objects keep their members in the order in which they are written.  Readers of a value ask for the
shape that they need; a shape that does not fit is no value.
-/

namespace CostView

/-- A JSON value.  A text that holds half of a surrogate pair is no string: it may stand where
nobody reads it, as `broken`. -/
inductive JsonValue where
  | null
  | bool (value : Bool)
  | number (text : String)
  | string (text : String)
  | array (items : List JsonValue)
  | object (members : List (String × JsonValue))
  | broken
deriving Repr, Inhabited

namespace JsonValue

/-- The text of a string. -/
def string? : JsonValue → Option String
  | .string text => some text
  | _ => none

/-- The items of an array. -/
def items? : JsonValue → Option (List JsonValue)
  | .array items => some items
  | _ => none

/-- The members of an object. -/
def members? : JsonValue → Option (List (String × JsonValue))
  | .object members => some members
  | _ => none

/-- Nothing if the value is null, else what `read?` makes of it. -/
def nullable? {α : Type} (read? : JsonValue → Option α) : JsonValue → Option (Option α)
  | .null => some none
  | value => (read? value).map some

/-- The value of a member that may be absent but must not occur twice. -/
def member? (members : List (String × JsonValue)) (name : String) : Option (Option JsonValue) :=
  match members.filter fun m => m.1 = name with
  | [] => some none
  | [m] => some (some m.2)
  | _ => none

end JsonValue

end CostView
