import CostView.Text.Blank

/-!
# Generations of the report schema

Cost and usage reports come in two layouts.  In generation one every attribute is a flat column; in
generation two a few columns are maps from keys to values and the rest are flat.
-/

namespace CostView

/-- A generation of the report schema. -/
inductive Generation where
  | one
  | two
deriving DecidableEq, Repr

namespace Generation

/-- The digit by which a generation is written. -/
def digit : Generation → String
  | .one => "1"
  | .two => "2"

/-- The name of the view that exposes a generation. -/
def viewName (g : Generation) : String :=
  "cur" ++ g.digit ++ "_proxy"

/-- The generation that is not `g`. -/
def other : Generation → Generation
  | .one => .two
  | .two => .one

/-- A text that names no generation. -/
structure Unknown where
  text : String
deriving DecidableEq, Repr

/-- The message about a text that names no generation. -/
def Unknown.message (e : Unknown) : String :=
  "Unknown CUR schema generation '" ++ e.text ++ "' (expected 1 or 2)"

/-- A generation is named by its digit, alone or after `v` or `cur`, in any ASCII case and with
blanks around it. -/
def parse (text : String) : Except Unknown Generation :=
  let s := Text.lower (Text.trim text.toList)
  let named := (Text.dropLeading? ['c', 'u', 'r'] s).getD ((Text.dropLeading? ['v'] s).getD s)
  if named = ['1'] then .ok .one
  else if named = ['2'] then .ok .two
  else .error ⟨text⟩

end Generation

end CostView
