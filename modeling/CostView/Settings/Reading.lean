import CostView.Environment.Basic
import CostView.Settings.Basic
import CostView.Text.Blank
import CostView.Yaml.Reader

/-!
# Reading settings

Settings are given as texts on a command line, in a document, or in the environment of a process.
Wherever they come from, they pass the same rules.
-/

namespace CostView

namespace Settings

/-- Settings as they are typed. -/
structure Typed where
  sourceTable : String
  database : Option String
  sourceGeneration : Option String
  target : String
  fields : List String
deriving DecidableEq, Repr

/-- The generation that the text of a setting names. -/
def readGeneration (setting text : String) : Except SettingsError Generation :=
  (Generation.parse text).mapError (.generation setting)

/-- The generation that the text of a setting names, if there is one. -/
def readGeneration? (setting : String) :
    Option String → Except SettingsError (Option Generation)
  | none => .ok none
  | some text => (readGeneration setting text).map some

/-- The settings that are typed.  `sourceName` and `targetName` are what the settings of the two
generations are called. -/
def ofTyped (sourceName targetName : String) (t : Typed) : Except SettingsError Settings := do
  let sourceGeneration ← readGeneration? sourceName t.sourceGeneration
  let target ← readGeneration targetName t.target
  validate ⟨t.sourceTable, t.database, sourceGeneration, target, t.fields⟩

/-- The settings on a command line. -/
def ofArguments (t : Typed) : Except SettingsError Settings :=
  ofTyped "source_version" "target_version" t

/-- The name of the generation that is exposed where none is given. -/
def defaultTarget : String := Generation.two.digit

/-- The variables that hold settings. -/
def variableNames : List String :=
  ["CUR_PROXY_SOURCE_TABLE", "CUR_PROXY_DATABASE", "CUR_PROXY_SOURCE_VERSION",
    "CUR_PROXY_TARGET_VERSION", "CUR_PROXY_FIELDS"]

/-- The fields in a list with commas: blanks around a field, and parts without a field, do not
count. -/
def splitFields (text : String) : List String :=
  ((Text.splitAt ',' text.toList).map Text.trim |>.filter (· ≠ [])).map String.ofList

/-- The settings in an environment. -/
def ofEnvironment (env : Environment) : Except SettingsError Settings :=
  match env["CUR_PROXY_SOURCE_TABLE"]? with
  | none => .error .missingVariable
  | some sourceTable =>
    ofTyped "CUR_PROXY_SOURCE_VERSION" "CUR_PROXY_TARGET_VERSION"
      { sourceTable
        database := env["CUR_PROXY_DATABASE"]?
        sourceGeneration := env["CUR_PROXY_SOURCE_VERSION"]?
        target := env["CUR_PROXY_TARGET_VERSION"]?.getD defaultTarget
        fields := env["CUR_PROXY_FIELDS"]?.elim [] splitFields }

/-- The generation that a value names. -/
def generationOfYaml? (value : Yaml) : Option Generation := do
  (Generation.parse (← value.string?)).toOption

/-- The settings that a value describes, whether they pass the rules or not. -/
def ofYaml? (value : Yaml) : Option Settings := do
  let entries ← value.entries?
  let sourceTable ← (← Yaml.field? entries "source_table").string?
  let database ← Yaml.nullableField? entries "database" Yaml.string?
  let sourceGeneration ← Yaml.nullableField? entries "source_version" generationOfYaml?
  let target ← generationOfYaml? (← Yaml.field? entries "target_version")
  let fields ← (← Yaml.fieldOr? entries "fields" Yaml.items? []).mapM Yaml.string?
  return ⟨sourceTable, database, sourceGeneration, target, fields⟩

/-- The settings in the text of a document.  A document with an anchor, an alias, a tag, a directive
or a marked key is not read, so it counts as malformed, also where full YAML gives it settings; the
same settings can be written without these. -/
def parse (text : String) : Except SettingsError Settings :=
  match (Yaml.read? text).bind ofYaml? with
  | some s => s.validate
  | none => .error (.malformed text)

/-- The settings in a file, given by its text; a file that cannot be read has none. -/
def ofFile : Option String → Except SettingsError Settings
  | some text => parse text
  | none => .error .unreadable

end Settings

end CostView
