import CostView.Generation
import CostView.Text.Split

/-!
# Settings of a run

The settings say which table is read, in which database, of which generation it is, which layout is
exposed and which fields of it.  A name of a table or database goes into statements as it is, so
only plain names pass, parts of which may be joined by points.
-/

namespace CostView

/-- What one run compiles.  Without a generation the source is looked at to find it; without fields
the default fields of the target are exposed. -/
structure Settings where
  sourceTable : String
  database : Option String
  sourceGeneration : Option Generation
  target : Generation
  fields : List String
deriving DecidableEq, Repr

/-- What a setting breaks: it must not be empty, it must be a plain name, or it must not hold too
many fields. -/
inductive Fault where
  | emptySource
  | badName (name : String)
  | tooManyFields
deriving DecidableEq, Repr

namespace Settings

/-- The number of fields that can be requested at once. -/
def maxFields : Nat := 4096

end Settings

namespace Fault

/-- The kind of a fault: a length out of bounds, or a name that is none. -/
def code : Fault → String
  | .emptySource | .tooManyFields => "length"
  | .badName _ => "table_name"

/-- The message about a fault. -/
def message : Fault → String
  | .emptySource => "Source table cannot be empty"
  | .badName name => "'" ++ name ++ "' is not a valid table name"
  | .tooManyFields =>
    "At most " ++ toString Settings.maxFields ++ " fields can be requested at once"

end Fault

/-- The faults of each setting that can have some. -/
structure Faults where
  sourceTable : List Fault
  database : List Fault
  fields : List Fault
deriving DecidableEq, Repr

namespace Faults

/-- There is no fault. -/
def none : Faults := ⟨[], [], []⟩

/-- The settings that have faults, by name. -/
def byName (f : Faults) : List (String × List Fault) :=
  [("source_table", f.sourceTable), ("database", f.database), ("fields", f.fields)].filter
    fun e => !e.2.isEmpty

/-- The message about faults. -/
def message (f : Faults) : String :=
  String.join (f.byName.map fun e =>
    e.1 ++ ": " ++ String.intercalate ", " (e.2.map Fault.message))

end Faults

/-- Why there are no settings: a variable that has to be set is missing, a text names no
generation, a file cannot be read or does not hold settings, or settings break rules. -/
inductive SettingsError where
  | missingVariable
  | generation (setting : String) (error : Generation.Unknown)
  | unreadable
  | malformed (text : String)
  | invalid (faults : Faults)
deriving DecidableEq, Repr

/-- The message about settings that there are not. -/
def SettingsError.message : SettingsError → String
  | .missingVariable => "Environment variable error: environment variable not found"
  | .generation setting error =>
    "Parse error for " ++ setting ++ ": " ++ error.text ++ " - " ++ error.message
  | .unreadable => "Parse error for yaml_file: file read failed"
  | .malformed text => "Parse error for yaml_content: " ++ text
  | .invalid faults => "Validation error: " ++ faults.message

namespace Settings

/-- The settings where nothing is said. -/
def default : Settings :=
  ⟨"cur", none, none, .two, []⟩

/-- Characters of a plain name. -/
def isNameChar (c : Char) : Bool :=
  c.isAlphanum || c = '_'

/-- Whether a text is a plain name, or several joined by points. -/
def isTableName (text : String) : Bool :=
  (Text.splitAt '.' text.toList).all fun part => !part.isEmpty && part.all isNameChar

/-- The fault of a name that is none. -/
def nameFaults (name : String) : List Fault :=
  if isTableName name then [] else [.badName name]

/-- The faults of settings. -/
def faults (s : Settings) : Faults where
  sourceTable := (if s.sourceTable = "" then [.emptySource] else []) ++ nameFaults s.sourceTable
  database := s.database.elim [] nameFaults
  fields := if s.fields.length ≤ maxFields then [] else [.tooManyFields]

/-- Settings without faults. -/
def validate (s : Settings) : Except SettingsError Settings :=
  if s.faults = .none then .ok s else .error (.invalid s.faults)

/-- The settings that hold where `top` is laid over others: its source table and target hold, and
everything else that it sets. -/
def merge (s top : Settings) : Settings where
  sourceTable := top.sourceTable
  database := top.database <|> s.database
  sourceGeneration := top.sourceGeneration <|> s.sourceGeneration
  target := top.target
  fields := if top.fields.isEmpty then s.fields else top.fields

/-- The name of the source in statements: a name without a point stands in the database. -/
def qualifiedTable (s : Settings) : String :=
  match s.database with
  | some database =>
    if s.sourceTable.toList.contains '.' then s.sourceTable
    else database ++ "." ++ s.sourceTable
  | none => s.sourceTable

end Settings

end CostView
