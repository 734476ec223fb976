import CostView.FieldTable.Basic

/-!
# Requested fields

A request names columns of a layout, or single keys of its map columns.  Names are read without
regard to ASCII case; keys are taken as they are.
-/

namespace CostView

/-- A field of a report layout that is asked for. -/
inductive Field where
  | plain (name : String)
  | mapKey (container key : String)
deriving DecidableEq, Repr

namespace Field

/-- Plain fields come first. -/
def rank : Field → Nat
  | .plain _ => 0
  | .mapKey _ _ => 1

/-- The name of a plain field; the container of a key. -/
def head : Field → String
  | .plain name => name
  | .mapKey container _ => container

/-- The key, if there is one. -/
def tail : Field → Option String
  | .plain _ => none
  | .mapKey _ key => some key

instance : Ord Field :=
  ⟨compareLex (compareOn rank) (compareLex (compareOn head) (compareOn tail))⟩

instance : Std.TransOrd Field :=
  inferInstanceAs
    (Std.TransCmp (compareLex (compareOn rank) (compareLex (compareOn head) (compareOn tail))))

instance : Std.LawfulEqOrd Field where
  eq_of_compare {a b} h := by
    obtain ⟨h1, h2⟩ := compareLex_eq_eq.1 h
    obtain ⟨h2, h3⟩ := compareLex_eq_eq.1 h2
    have e1 := Std.LawfulEqOrd.eq_of_compare h1
    have e2 := Std.LawfulEqOrd.eq_of_compare h2
    have e3 := Std.LawfulEqOrd.eq_of_compare h3
    cases a <;> cases b <;> simp_all [rank, head, tail]

/-- The text of a field. -/
def text : Field → String
  | .plain name => name
  | .mapKey container key => subscriptText container key

/-- The field that a text names. -/
def parse (table : FieldTable) (text : String) : Except IdentifierError Field :=
  match readIdentifier text with
  | .error error => .error error
  | .ok e =>
    match e.column?, e.subscript? with
    | some name, _ => .ok (.plain (Text.lowered name))
    | none, some (container, key) =>
      let container := Text.lowered container
      if table.isMapField container then .ok (.mapKey container key)
      else .error ⟨text, .notMap container⟩
    | none, none =>
      match e with
      | .call _ _ => .error ⟨text, .call⟩
      | _ => .error ⟨text, .notField⟩

end Field

/-- The fields asked for in one run. -/
structure Request where
  fields : Std.ExtTreeSet Field

namespace Request

/-- The fields that texts name; the first text that names none is the error. -/
def parseList (table : FieldTable) : List String → Except IdentifierError (List Field)
  | [] => .ok []
  | text :: rest =>
    match Field.parse table text with
    | .error error => .error error
    | .ok field => (parseList table rest).map (field :: ·)

/-- The request for the fields that texts name. -/
def parse (table : FieldTable) (texts : List String) : Except IdentifierError Request :=
  (parseList table texts).map fun fields => ⟨.ofList fields⟩

/-- The message about a request with a text that names no field. -/
def refusalMessage (error : IdentifierError) : String :=
  "Invalid field request: " ++ error.message

/-- The request for the default fields of a generation. -/
def defaults (table : FieldTable) (target : Generation) : Request :=
  ⟨.ofList ((table.defaultFields target).toList.filterMap fun text =>
    (Field.parse table text).toOption)⟩

/-- The request for the fields that texts name, or for the default fields if there are none. -/
def parseOrDefaults (table : FieldTable) (target : Generation) (texts : List String) :
    Except IdentifierError Request :=
  match parse table texts with
  | .error error => .error error
  | .ok request => .ok (if request.fields.isEmpty then defaults table target else request)

/-- The request with one more field. -/
def insert (request : Request) (field : Field) : Request :=
  ⟨request.fields.insert field⟩

/-- The fields of a request, plain ones first. -/
def toList (request : Request) : List Field :=
  request.fields.toList

end Request

end CostView
