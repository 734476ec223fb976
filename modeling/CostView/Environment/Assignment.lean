import CostView.Environment.Basic
import CostView.Text.Blank
import CostView.Text.Letters

/-!
# Assignments to variables

An assignment is written `name=value`, after the word `export` or without it.  A value may stand
between quotes, escape characters by a backslash and name other variables after a dollar sign;
between single quotes every character stands for itself.  After a value only a comment may follow.
-/

namespace CostView

/-- A piece of a value: a character, or the value of a variable. -/
inductive ValuePart where
  | char (c : Char)
  | variable (name : String)
deriving DecidableEq, Repr

/-- A variable and what its value is made of. -/
structure Assignment where
  name : String
  value : List ValuePart
deriving DecidableEq, Repr

namespace Assignment

/-- Where in a value a character stands.  The name of a variable is read up to a character that is
no part of it; the value goes on between double quotes if it stood there. -/
inductive Position where
  | bare
  | singleQuotes
  | doubleQuotes
  | escaped (quoted : Bool)
  | name (quoted : Bool) (soFar : List Char)
  | braces (quoted : Bool) (soFar : List Char)
  | after
deriving DecidableEq, Repr

/-- Between double quotes or outside quotes. -/
def Position.plain (quoted : Bool) : Position :=
  if quoted then .doubleQuotes else .bare

/-- The character that a character stands for after a backslash. -/
def escape? (c : Char) : Option Char :=
  if c ∈ ['\\', '\'', '"', '$', ' '] then some c
  else if c = 'n' then some '\n'
  else none

/-- The variable whose name, read backwards, is given. -/
def variableOf (soFar : List Char) : ValuePart :=
  .variable (String.ofList soFar.reverse)

/-- What the end of a text at a position completes; nothing if quotes or braces are open. -/
def Position.finish : Position → Option (List ValuePart)
  | .bare | .after | .escaped false => some []
  | .name false soFar => some [variableOf soFar]
  | _ => none

/-- The position after a character and what it completes; nothing if the character cannot stand
there. -/
def Position.step (c : Char) : Position → Option (Position × List ValuePart)
  | .bare =>
    if c = '$' then some (.name false [], [])
    else if c = '\'' then some (.singleQuotes, [])
    else if c = '"' then some (.doubleQuotes, [])
    else if c = '\\' then some (.escaped false, [])
    else if c = ' ' || c = '\t' then some (.after, [])
    else some (.bare, [.char c])
  | .singleQuotes => some (if c = '\'' then (.bare, []) else (.singleQuotes, [.char c]))
  | .doubleQuotes =>
    if c = '$' then some (.name true [], [])
    else if c = '"' then some (.bare, [])
    else if c = '\\' then some (.escaped true, [])
    else some (.doubleQuotes, [.char c])
  | .escaped quoted => (escape? c).map fun x => (.plain quoted, [.char x])
  | .name quoted soFar =>
    if Text.isLetterOrDigit c then some (.name quoted (c :: soFar), [])
    else if c = '\x7b' && soFar.isEmpty then some (.braces quoted [], [])
    else if c = '$' then some (.name quoted [], [variableOf soFar])
    else some (.plain quoted, [variableOf soFar, .char c])
  | .braces quoted soFar =>
    if c = '\x7d' then some (.plain quoted, [variableOf soFar])
    else some (.braces quoted (c :: soFar), [])
  | .after => if c = ' ' || c = '\t' then some (.after, []) else none

/-- The parts of a value, from a position in it. -/
def valueParts (position : Position) : List Char → Option (List ValuePart)
  | [] => position.finish
  | c :: rest =>
    if position = .after && c = '#' then some []
    else
      match position.step c with
      | none => none
      | some (next, parts) => (valueParts next rest).map (parts ++ ·)

/-- Characters that start the name of a variable. -/
def startsName (c : Char) : Bool :=
  c.isAlpha || c = '_'

/-- Characters of the name of a variable. -/
def continuesName (c : Char) : Bool :=
  c.isAlphanum || c = '_' || c = '.'

/-- The name of a variable and what follows it and the blanks after it. -/
def name? : List Char → Option (List Char × List Char)
  | [] => none
  | c :: rest =>
    if startsName c then
      some (c :: rest.takeWhile continuesName,
        (rest.dropWhile continuesName).dropWhile Text.isBlank)
    else none

/-- The name that is assigned to and what follows its equals sign.  The word `export` before a name
is no part of it, but may be a name itself. -/
def target? (s : List Char) : Option (List Char × List Char) :=
  match name? s with
  | none => none
  | some (name, '=' :: rest) => some (name, rest)
  | some (name, rest) =>
    if name = "export".toList then
      match name? rest with
      | some (name, '=' :: rest) => some (name, rest)
      | _ => none
    else none

/-- Whether nothing follows but a comment. -/
def isComment (s : List Char) : Bool :=
  s.isEmpty || s.head? = some '#'

/-- The assignment on a line: none on a line that is empty or a comment, and a failure on one that
is no assignment. -/
def parse? (line : List Char) : Option (Option Assignment) :=
  let s := Text.trim line
  if isComment s then some none
  else
    match target? s with
    | none => none
    | some (name, rest) =>
      let rest := rest.dropWhile Text.isBlank
      let value := if isComment rest then some [] else valueParts .bare rest
      value.map fun value => some ⟨String.ofList name, value⟩

/-- The text of a part of a value in an environment: a variable that is not set has none. -/
def partText (env : Environment) : ValuePart → String
  | .char c => c.toString
  | .variable name => env[name]?.getD ""

/-- The environment after an assignment.  A variable that is set keeps its value. -/
def apply (env : Environment) (a : Assignment) : Environment :=
  if env.contains a.name then env
  else env.insert a.name (String.join (a.value.map (partText env)))

/-- The variables that a value names. -/
def mentions (a : Assignment) : List String :=
  a.value.filterMap fun
    | .variable name => some name
    | .char _ => none

end Assignment

end CostView
