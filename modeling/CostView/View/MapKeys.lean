import CostView.Expression.Parser
import CostView.Text.Folding

/-!
# Reading map keys back from the text of a view

The keys of an assembled map are not part of the metadata of a view, so they are read back from
the text that created it: `MAP(ARRAY[keys], ARRAY[values]) AS column`.  Chunked arrays are merged
beforehand.  The search takes the first place in the text where that form is found, in any case and
with blanks between its parts; neither list may hold a closing bracket.
-/

namespace CostView.MapKeys

open CostView.Text (isBlank dropFolded? sameFolded)

/-- What follows blanks. -/
def skipBlanks (s : List Char) : List Char :=
  s.dropWhile isBlank

/-- What follows blanks and then the word `w` in any case. -/
def word? (w : List Char) (s : List Char) : Option (List Char) :=
  dropFolded? w (skipBlanks s)

/-- What follows the opening of a literal array, blanks before it included. -/
def openArray? (s : List Char) : Option (List Char) :=
  (word? ['A', 'R', 'R', 'A', 'Y'] s).bind (word? ['['])

/-- What follows the joint between two chunks of an array. -/
def joint? (s : List Char) : Option (List Char) :=
  ((dropFolded? [']'] s).bind (word? ['|', '|'])).bind openArray?

theorem length_skipBlanks_le (s : List Char) : (skipBlanks s).length ≤ s.length :=
  Text.length_dropWhile_le isBlank s

theorem word?_shorter {w s r : List Char} (h : word? w s = some r) :
    r.length + w.length ≤ s.length := by
  have h1 := Text.dropFolded?_shorter h
  have h2 := length_skipBlanks_le s
  omega

theorem joint?_shorter {s r : List Char} (h : joint? s = some r) : r.length < s.length := by
  simp only [joint?, openArray?, Option.bind_eq_some_iff] at h
  obtain ⟨b, ⟨a, h1, h2⟩, c, h3, h4⟩ := h
  have e1 := Text.dropFolded?_shorter h1
  have e2 := word?_shorter h2
  have e3 := word?_shorter h3
  have e4 := word?_shorter h4
  simp only [List.length_cons, List.length_nil] at e1 e2 e3 e4
  omega

/-- A text with the chunks of its arrays merged: each joint becomes a comma and a space. -/
def merge (s : List Char) : List Char :=
  match _ : joint? s with
  | some rest => ',' :: ' ' :: merge rest
  | none =>
    match s with
    | [] => []
    | c :: rest => c :: merge rest
termination_by s.length
decreasing_by
  · exact joint?_shorter ‹_›
  · simp

/-- A text with the chunks of its arrays merged. -/
def mergeChunks (sql : String) : String :=
  String.ofList (merge sql.toList)

/-- What stands before a closing bracket, and what follows it. -/
def upToBracket? (s : List Char) : Option (List Char × List Char) :=
  match s.dropWhile (· ≠ ']') with
  | [] => none
  | _ :: rest => some (s.takeWhile (· ≠ ']'), rest)

/-- Whether a name ends here. -/
def isNameEnd : List Char → Bool
  | [] => true
  | c :: _ => isBlank c || c = ','

/-- Whether the text starts with the column name in any case, perhaps with a quote after it. -/
def isNamed (column s : List Char) : Bool :=
  match dropFolded? column s with
  | none => false
  | some rest =>
    isNameEnd rest || match rest with
      | '"' :: rest => isNameEnd rest
      | _ => false

/-- Whether the column name, perhaps after a quote, starts here or after some of the blanks
here. -/
def isAliasAfterBlanks (column : List Char) : List Char → Bool
  | [] => isNamed column []
  | c :: rest =>
    isNamed column (c :: rest) || (c = '"' && isNamed column rest) ||
      (isBlank c && isAliasAfterBlanks column rest)

/-- Whether blanks and an alias for the column start here. -/
def isAlias (column : List Char) : List Char → Bool
  | [] => false
  | c :: rest => isBlank c && isAliasAfterBlanks column rest

/-- What follows the word `AS` after at least one blank. -/
def asWord? : List Char → Option (List Char)
  | [] => none
  | c :: rest => if isBlank c then word? ['A', 'S'] rest else none

/-- The key list of a map that starts here and is given to the column. -/
def keyListHere? (column s : List Char) : Option (List Char) := do
  let s ← dropFolded? ['M', 'A', 'P'] s
  let s ← word? ['('] s
  let s ← openArray? s
  let (keys, s) ← upToBracket? s
  let s ← word? [','] s
  let s ← openArray? s
  let (_, s) ← upToBracket? s
  let s ← word? [')'] s
  let s ← asWord? s
  if isAlias column s then some keys else none

/-- The key list of the first map in the text that is given to the column. -/
def keyList? (column : List Char) : List Char → Option (List Char)
  | [] => none
  | c :: rest =>
    match keyListHere? column (c :: rest) with
    | some keys => some keys
    | none => keyList? column rest

/-- The texts after the first of a list, each after a comma. -/
def moreKeys? (s : List Char) : Option (List String) :=
  match Expr.skipTo? ',' s with
  | none => if Expr.skipSpaces s = [] then some [] else none
  | some ⟨rest, _⟩ =>
    match Expr.readQuoted? '\'' (Expr.skipSpaces rest) with
    | none => none
    | some key => (moreKeys? key.rest).map (key.value :: ·)
termination_by s.length
decreasing_by
  have h1 := Expr.length_skipSpaces_le rest
  have h2 := key.shorter
  omega

/-- The keys of a key list: texts between single quotes, separated by commas. -/
def keysOfList? (s : List Char) : Option (List String) :=
  match Expr.readQuoted? '\'' (Expr.skipSpaces s) with
  | none => if Expr.skipSpaces s = [] then some [] else none
  | some key => (moreKeys? key.rest).map (key.value :: ·)

/-- The keys of the map that a text gives to a column. -/
def parse? (sql column : String) : Option (List String) :=
  (keyList? column.toList sql.toList).bind keysOfList?

end CostView.MapKeys
