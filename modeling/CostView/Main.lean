import CostView.CommandLine.Run

/-!
# The program

The host of a run is the process: its variables, its files, its output and its error stream, where
messages of level `info` and above are shown.
-/

namespace CostView.Process

/-- The text of a file, if it can be read. -/
def fileText? (path : String) : IO (Option String) := do
  try
    return some (← IO.FS.readFile path)
  catch _ =>
    return none

/-- Whether there is something at a path. -/
def isThere (path : String) : IO Bool := do
  try
    let _ ← IO.FS.realPath path
    return true
  catch _ =>
    return false

/-- Write the text of a file; whether that succeeded. -/
def saveFile (path text : String) : IO Bool := do
  try
    IO.FS.writeFile path text
    return true
  catch _ =>
    return false

/-- The first text among files that may not be there. -/
def firstText? : List String → IO (Option String)
  | [] => return none
  | path :: rest => do
    match ← fileText? path with
    | some text => return some text
    | none => firstText? rest

/-- Enter a notice and show the messages that it gives. -/
def note (journal : IO.Ref Journal) (notice : Notice) : IO Unit := do
  let before ← journal.get
  let now := before.note notice
  journal.set now
  for (level, text) in (now.shown .info).drop (before.shown .info).length do
    IO.eprintln ("[" ++ level.name ++ "] " ++ text)

/-- The process as a host. -/
def host (journal : IO.Ref Journal) : Host IO where
  valueOf? name := IO.getEnv name
  environmentFile? := do
    let here ← IO.currentDir
    firstText? (EnvironmentFile.paths here.toString)
  isThere := isThere
  fileText? := fileText?
  saveFile := saveFile
  printLine := IO.println
  note := note journal

/-- How the program is used. -/
def usage : String :=
  "Usage: costview --catalog <PATH> [--config <PATH>] [--source-table <NAME>]\n" ++
  "  [--database <NAME>] [--source-version <1|2>] [--target-version <1|2>]\n" ++
  "  [--field <FIELD>]... [--state <PATH>] [--save-catalog <PATH>] [--json]"

end CostView.Process

/-- Run with the command line of the process. -/
def main (args : List String) : IO UInt32 := do
  let journal ← IO.mkRef CostView.Journal.empty
  let ending ← CostView.CommandLine.run (CostView.Process.host journal) args
  if ending = .misused then IO.eprintln CostView.Process.usage
  if let some complaint := ending.complaint? then IO.eprintln complaint
  return ending.status.toUInt32
