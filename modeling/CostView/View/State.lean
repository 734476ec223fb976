import CostView.Exposure
import CostView.SqlType
import Std.Data.ExtTreeMap

/-!
# The state of a view

A view exposes columns, each with its type as far as it is known, and for its map columns the keys
that are baked into their expressions.  No operation takes anything away: what is exposed stays
exposed, and a known type stays known.
-/

namespace CostView

/-- The exposed columns with their types, and the exposed keys by column. -/
structure ViewState where
  columns : Std.ExtTreeMap String (Option SqlType)
  mapKeys : Std.ExtTreeMap String (Std.ExtTreeSet String)
deriving DecidableEq

namespace ViewState

/-- Nothing is exposed. -/
def empty : ViewState := ⟨∅, ∅⟩

/-- Whether no column is exposed. -/
def isEmpty (s : ViewState) : Bool :=
  s.columns.isEmpty

/-- The names of the exposed columns, ascending. -/
def columnNames (s : ViewState) : List String :=
  s.columns.keys

/-- Whether a column is exposed. -/
def hasColumn (s : ViewState) (name : String) : Bool :=
  s.columns.contains name

/-- The type of an exposed column, if it is known. -/
def columnType? (s : ViewState) (name : String) : Option SqlType :=
  (s.columns[name]?).join

/-- The exposed keys of a column; none if it is no map column. -/
def keysOf (s : ViewState) (column : String) : Std.ExtTreeSet String :=
  (s.mapKeys[column]?).getD ∅

/-- Whether a column or key is exposed.  A key counts only if its column is exposed too. -/
def contains (s : ViewState) (x : Exposure) : Bool :=
  s.hasColumn x.column &&
    match x.key with
    | none => true
    | some key => (s.keysOf x.column).contains key

/-- Whether all of `xs` are exposed. -/
def covers (s : ViewState) (xs : List Exposure) : Bool :=
  xs.all s.contains

/-- Expose a column; a type that is given replaces the one recorded. -/
def insertColumn (s : ViewState) (name : String) (type : Option SqlType) : ViewState :=
  { s with columns := s.columns.alter name fun slot => some (type <|> slot.join) }

/-- Record keys of a column. -/
def insertKeys (s : ViewState) (column : String) (keys : List String) : ViewState :=
  { s with mapKeys := s.mapKeys.alter column fun slot => some ((slot.getD ∅).insertMany keys) }

/-- Expose a column or key. -/
def expose (s : ViewState) (x : Exposure) : ViewState :=
  let s := s.insertColumn x.column none
  match x.key with
  | none => s
  | some key => s.insertKeys x.column [key]

/-- Expose all of `xs`. -/
def extend (s : ViewState) (xs : List Exposure) : ViewState :=
  xs.foldl expose s

/-- Every exposed column and every recorded key. -/
def exposures (s : ViewState) : Std.ExtTreeSet Exposure :=
  .ofList (s.columnNames.map Exposure.ofColumn ++
    s.mapKeys.toList.flatMap fun e => e.2.toList.map (Exposure.ofKey e.1))

/-- The name and type text of every column, `unknown` where the type is not known. -/
def columnInfos (s : ViewState) : List (String × String) :=
  s.columns.toList.map fun e => (e.1, e.2.elim "unknown" SqlType.text)

end ViewState

/-- What is known about a view between two compilations: nothing yet, or its state. -/
inductive Snapshot where
  | fresh
  | compiled (state : ViewState)
deriving DecidableEq

/-- The state of a view, if it is known. -/
def Snapshot.state? : Snapshot → Option ViewState
  | .fresh => none
  | .compiled state => some state

end CostView
