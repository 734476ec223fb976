import CostView.Catalog.Yaml
import CostView.CommandLine.Options
import CostView.Compiler
import CostView.Environment.File
import CostView.FieldTable.BuiltIn
import CostView.Json.Printer
import CostView.Json.Reader
import CostView.View.Json

/-!
# A run of the program

A run compiles a view against a catalog that is kept in a file, prints what it did and writes what
it was asked to keep.  What it needs of the world is given by a host: files, variables, a place to
print to.  The first thing that fails ends a run.
-/

namespace CostView

/-- What the program needs of the world around it, as actions in `m`. -/
structure Host (m : Type → Type) where
  /-- The value of a variable of the process. -/
  valueOf? : String → m (Option String)
  /-- The text of the nearest file with further variables. -/
  environmentFile? : m (Option String)
  /-- Whether there is something at a path. -/
  isThere : String → m Bool
  /-- The text of a file, if it can be read. -/
  fileText? : String → m (Option String)
  /-- Write the text of a file; whether that succeeded. -/
  saveFile : String → String → m Bool
  /-- Print a line. -/
  printLine : String → m Unit
  /-- Give a notice. -/
  note : Notice → m Unit

/-- Why a run fails. -/
inductive Failure where
  | arguments (error : SettingsError)
  | settingsFile (path : String) (error : SettingsError)
  | environment (error : SettingsError)
  | catalogFile (path : String)
  | sourceTable (name : String) (error : CatalogError)
  | request (error : IdentifierError)
  | snapshotUnreadable (path : String)
  | snapshotMalformed (path : String)
  | compilation (error : CompileError)
  | snapshotUnwritable (path : String)
  | catalogUnwritable (path : String)
deriving DecidableEq, Repr

/-- The message about a run that failed. -/
def Failure.message : Failure → String
  | .arguments error => error.message
  | .settingsFile path _ => "loading configuration from " ++ path
  | .environment _ => "no --source-table or --config given, reading CUR_PROXY_* environment"
  | .catalogFile path => "loading catalog snapshot " ++ path
  | .sourceTable name _ => "reading source table " ++ name
  | .request error => error.message
  | .snapshotUnreadable path => "reading view snapshot " ++ path
  | .snapshotMalformed path => "parsing view snapshot " ++ path
  | .compilation error => error.message
  | .snapshotUnwritable path => "writing view snapshot " ++ path
  | .catalogUnwritable path => "writing catalog snapshot " ++ path

/-- How a run ends: it did what it was asked to do, it was asked for nothing that it understands,
or it failed. -/
inductive Ending where
  | done
  | misused
  | failed (failure : Failure)
deriving DecidableEq, Repr

/-- The exit status of the process. -/
def Ending.status : Ending → Nat
  | .done => 0
  | .failed _ => 1
  | .misused => 2

/-- The line about a run that failed. -/
def Ending.complaint? : Ending → Option String
  | .failed failure => some ("Error: " ++ failure.message)
  | _ => none

namespace CommandLine

/-- A part of a run, which may fail. -/
abbrev Step (m : Type → Type) := ExceptT Failure m

/-- A result, or the failure that an error is. -/
def orFail {m : Type → Type} [Monad m] {ε α : Type} (failure : ε → Failure) (r : Except ε α) :
    Step m α :=
  ExceptT.mk (pure (r.mapError failure))

variable {m : Type → Type} [Monad m]

/-- The variables of the process that a run can depend on. -/
def environment (host : Host m) (names : List String) : m Environment :=
  names.foldlM (fun env name => do
    match ← host.valueOf? name with
    | some value => return env.insert name value
    | none => return env) ∅

/-- The settings in the environment, to which a file may add variables. -/
def environmentSettings (host : Host m) : Step m Settings := do
  let text? ← host.environmentFile?
  let assignments := text?.elim [] EnvironmentFile.parse
  let names := Settings.variableNames ++
    assignments.flatMap fun a => a.name :: a.mentions
  let env ← (environment host names : m Environment)
  orFail .environment (Settings.ofEnvironment (assignments.foldl Assignment.apply env))

/-- The settings in a file under those of the command line. -/
def layered (file : Settings) (top : Option Settings) : Settings :=
  top.elim file file.merge

/-- The settings of a run: those on the command line over those in a file, or else those in the
environment. -/
def settings (host : Host m) (o : Options) : Step m Settings := do
  let top ← orFail .arguments o.settings?
  match o.config, top with
  | some path, top =>
    let text? ← host.fileText? path
    let file ← orFail (.settingsFile path) (Settings.ofFile text?)
    return layered file top
  | none, some s => return s
  | none, none => environmentSettings host

/-- The catalog in a file. -/
def catalog (host : Host m) (path : String) : Step m Catalog := do
  match (← host.fileText? path).bind Catalog.parse? with
  | some c => return c
  | none => throw (.catalogFile path)

/-- What is known about the view from an earlier run. -/
def snapshot (host : Host m) : Option String → Step m Snapshot
  | none => return .fresh
  | some path => do
    if !(← host.isThere path) then return .fresh
    match ← host.fileText? path with
    | none => throw (.snapshotUnreadable path)
    | some text =>
      match (JsonValue.read? text).bind Snapshot.ofJson? with
      | some s => return s
      | none => throw (.snapshotMalformed path)

/-- Do something with a catalog and give its notices. -/
def withCatalog (host : Host m) {α : Type} (c : Catalog) (action : Action Catalog α) :
    Step m (α × Catalog) := do
  let r := action c
  r.notices.forM fun notice => liftM (host.note notice)
  return r.value

/-- A message at level `info`. -/
def inform (host : Host m) (text : String) : Step m Unit :=
  liftM (host.note (.line .info text))

/-- What a run did, as JSON. -/
def report (viewName : String) (o : Outcome) : JsonValue :=
  .object
    [("view", .string viewName), ("sql", o.sql?.elim .null .string),
      ("snapshot", o.snapshot.toJson)]

/-- Print what a run did. -/
def print (host : Host m) (json : Bool) (viewName : String) (o : Outcome) : Step m Unit :=
  if json then liftM (host.printLine (report viewName o).pretty)
  else
    match o.sql? with
    | some sql => liftM (host.printLine sql)
    | none => inform host (viewName ++ " is up to date, nothing to do")

/-- Write a file, or fail. -/
def write (host : Host m) (path text : String) (failure : Failure) : Step m Unit := do
  if !(← host.saveFile path text) then throw failure

/-- Run with given options. -/
def execute (host : Host m) (o : Options) : Step m Unit := do
  let s ← settings host o
  let table := FieldTable.builtIn
  inform host ("Field equivalence table version " ++ table.version)
  let c ← catalog host o.catalog
  let name := s.qualifiedTable
  let (loaded, c) ←
    withCatalog host c (SourceTable.load Catalog.engine name s.sourceGeneration table)
  let source ← orFail (.sourceTable name) loaded
  let request ← orFail .request (Request.parseOrDefaults table s.target s.fields)
  let compiler : Compiler := ⟨table, source, s.target⟩
  inform host
    ("Compiling " ++ compiler.viewName ++ " from " ++ source.name ++ " (" ++
      toString source.columnCount ++ " columns, CUR" ++ source.generation.digit ++ " -> CUR" ++
      s.target.digit ++ ", " ++ toString request.toList.length ++ " fields requested)")
  let before ← snapshot host o.state
  let (compiled, c) ← withCatalog host c (compiler.compile Catalog.engine before request)
  let outcome ← orFail .compilation compiled
  print host o.json compiler.viewName outcome
  if let some path := o.state then
    write host path outcome.snapshot.toJson.pretty (.snapshotUnwritable path)
  if let some path := o.saveCatalog then
    write host path (compiler.register outcome c).text (.catalogUnwritable path)

/-- Run with a command line. -/
def run (host : Host m) (args : List String) : m Ending :=
  match Options.parse? args with
  | none => pure .misused
  | some o => do
    match ← (execute host o).run with
    | .ok () => return .done
    | .error failure => return .failed failure

end CommandLine

end CostView
