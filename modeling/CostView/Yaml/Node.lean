/-!
# Values of a settings document

A document holds scalars, lists and maps.  A scalar keeps its text and whether it stood plain,
without quotes, for only a plain scalar can mean "nothing" or a truth value.  Readers of a document
ask for the shape that they need; a shape that does not fit is no value.
-/

namespace CostView

/-- A value of a document. -/
inductive Yaml where
  | scalar (plain : Bool) (text : String)
  | list (items : List Yaml)
  | map (entries : List (Yaml × Yaml))
deriving Repr, Inhabited

namespace Yaml

/-- The value of a place where nothing is written. -/
def empty : Yaml :=
  .scalar true ""

/-- The text of a scalar, whatever it looks like. -/
def string? : Yaml → Option String
  | .scalar _ text => some text
  | _ => none

/-- Whether a value stands for "nothing". -/
def isNull : Yaml → Bool
  | .scalar true text => text ∈ ["", "~", "null", "Null", "NULL"]
  | _ => false

/-- A truth value. -/
def bool? : Yaml → Option Bool
  | .scalar true text =>
    if text ∈ ["true", "True", "TRUE"] then some true
    else if text ∈ ["false", "False", "FALSE"] then some false
    else none
  | _ => none

/-- The items of a list; a place where nothing is written has none. -/
def items? : Yaml → Option (List Yaml)
  | .list items => some items
  | .scalar true "" => some []
  | _ => none

/-- The entries of a map all of whose keys are scalars; a place where nothing is written has
none. -/
def entries? : Yaml → Option (List (String × Yaml))
  | .map entries => entries.mapM fun e => e.1.string?.map fun key => (key, e.2)
  | .scalar true "" => some []
  | _ => none

/-- The value of a key that may be absent but must not occur twice. -/
def optionalField? (entries : List (String × Yaml)) (key : String) : Option (Option Yaml) :=
  match entries.filter fun e => e.1 = key with
  | [] => some none
  | [e] => some (some e.2)
  | _ => none

/-- The value of a key that must occur exactly once. -/
def field? (entries : List (String × Yaml)) (key : String) : Option Yaml :=
  (optionalField? entries key).join

/-- The value of a key read by `read?`; none if the key is absent or has no value. -/
def nullableField? {α : Type} (entries : List (String × Yaml)) (key : String)
    (read? : Yaml → Option α) : Option (Option α) :=
  match optionalField? entries key with
  | none => none
  | some none => some none
  | some (some value) => if value.isNull then some none else (read? value).map some

/-- The value of a key read by `read?`; the default if the key is absent. -/
def fieldOr? {α : Type} (entries : List (String × Yaml)) (key : String)
    (read? : Yaml → Option α) (default : α) : Option α :=
  match optionalField? entries key with
  | none => none
  | some none => some default
  | some (some value) => read? value

end Yaml

end CostView
