import CostView.Settings.Reading
import CostView.Text.Blank

/-!
# Options

Options are written `--name value` or `--name=value`.  Only `--field` may be repeated, only `--json`
takes no value, and nothing but options may stand on a command line.
-/

namespace CostView

/-- The names of options that take a value. -/
inductive OptionName where
  | catalog
  | config
  | sourceTable
  | database
  | sourceVersion
  | targetVersion
  | field
  | state
  | saveCatalog
deriving DecidableEq, Repr

namespace OptionName

/-- All names. -/
def all : List OptionName :=
  [.catalog, .config, .sourceTable, .database, .sourceVersion, .targetVersion, .field, .state,
    .saveCatalog]

/-- A name as it is written after two dashes. -/
def text : OptionName → String
  | .catalog => "catalog"
  | .config => "config"
  | .sourceTable => "source-table"
  | .database => "database"
  | .sourceVersion => "source-version"
  | .targetVersion => "target-version"
  | .field => "field"
  | .state => "state"
  | .saveCatalog => "save-catalog"

/-- The name that a text writes. -/
def ofText? (text : String) : Option OptionName :=
  all.find? fun name => name.text = text

/-- Whether the value is the path of a file, which must not be empty. -/
def isPath : OptionName → Bool
  | .catalog | .config | .state | .saveCatalog => true
  | _ => false

end OptionName

/-- One option of a command line. -/
inductive Argument where
  | given (name : OptionName) (text : String)
  | json
deriving DecidableEq, Repr

namespace Argument

/-- An option without its two dashes, cut at its first equals sign: the name and, if there is an
equals sign, what follows it. -/
def cut (s : List Char) : String × Option String :=
  (String.ofList (s.takeWhile (· ≠ '=')),
    match s.dropWhile (· ≠ '=') with
    | [] => none
    | _ :: value => some (String.ofList value))

/-- Whether a text cannot be the value of the option before it.  A single dash can. -/
def isOption (text : String) : Bool :=
  match text.toList with
  | '-' :: _ :: _ => true
  | _ => false

/-- The options of a command line; nothing if something is no option or lacks its value.  Two
dashes may close the line. -/
def parseAll? : List String → Option (List Argument)
  | [] => some []
  | ["--"] => some []
  | text :: rest =>
    match Text.dropLeading? ['-', '-'] text.toList with
    | none => none
    | some s =>
      let (name, value?) := cut s
      if name = "json" then
        if value?.isNone then (parseAll? rest).map (.json :: ·) else none
      else
        match OptionName.ofText? name, value? with
        | none, _ => none
        | some name, some value => (parseAll? rest).map (.given name value :: ·)
        | some name, none =>
          match rest with
          | [] => none
          | value :: rest =>
            if isOption value then none else (parseAll? rest).map (.given name value :: ·)

end Argument

/-- What is asked for on a command line. -/
structure Options where
  catalog : String
  config : Option String
  sourceTable : Option String
  database : Option String
  sourceVersion : Option String
  targetVersion : Option String
  fields : List String
  state : Option String
  saveCatalog : Option String
  json : Bool
deriving DecidableEq, Repr

namespace Options

/-- The values that an option is given. -/
def valuesOf (args : List Argument) (name : OptionName) : List String :=
  args.filterMap fun
    | .given other text => if other = name then some text else none
    | .json => none

/-- The value of an option that may be given once. -/
def single? (args : List Argument) (name : OptionName) : Option (Option String) :=
  match valuesOf args name with
  | [] => some none
  | [text] => if name.isPath && text = "" then none else some (some text)
  | _ => none

/-- What given options ask for; nothing if they are not well formed. -/
def ofArguments? (args : List Argument) : Option Options := do
  let json := args.count .json
  if 1 < json then none
  return {
    catalog := ← (← single? args .catalog)
    config := ← single? args .config
    sourceTable := ← single? args .sourceTable
    database := ← single? args .database
    sourceVersion := ← single? args .sourceVersion
    targetVersion := ← single? args .targetVersion
    fields := valuesOf args .field
    state := ← single? args .state
    saveCatalog := ← single? args .saveCatalog
    json := json = 1 }

/-- What a command line asks for; nothing if it is not well formed. -/
def parse? (args : List String) : Option Options :=
  (Argument.parseAll? args).bind ofArguments?

/-- The settings on the command line, which count only if a source table is among them. -/
def typed? (o : Options) : Option Settings.Typed :=
  o.sourceTable.map fun sourceTable =>
    { sourceTable
      database := o.database
      sourceGeneration := o.sourceVersion
      target := o.targetVersion.getD Settings.defaultTarget
      fields := o.fields }

/-- The settings on the command line, if there are some. -/
def settings? (o : Options) : Except SettingsError (Option Settings) :=
  match o.typed? with
  | none => .ok none
  | some typed => (Settings.ofArguments typed).map some

end Options

end CostView
