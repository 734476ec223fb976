import CostView.Json.Value
import CostView.Text.Blank
import CostView.Text.Escaped

/-!
# JSON values as text

Values are laid out over several lines, indented by two spaces for each level; an empty array or
object stays on its line.
-/

namespace CostView.JsonValue

/-- A character as it stands inside a string. -/
def encodeChar (c : Char) : List Char :=
  match c with
  | '"' => ['\\', '"']
  | '\\' => ['\\', '\\']
  | '\x08' => ['\\', 'b']
  | '\x0c' => ['\\', 'f']
  | '\n' => ['\\', 'n']
  | '\r' => ['\\', 'r']
  | '\t' => ['\\', 't']
  | c =>
    if c.toNat < 0x20 then
      let digits := Text.Escaped.hex c.toNat
      ['\\', 'u'] ++ List.replicate (4 - digits.length) '0' ++ digits
    else [c]

/-- A string between its quotes. -/
def encodeString (s : String) : List Char :=
  '"' :: (s.toList.flatMap encodeChar ++ ['"'])

/-- The start of a line at a level. -/
def newLine (level : Nat) : List Char :=
  '\n' :: List.replicate (2 * level) ' '

mutual

/-- The text of a value that starts at a level. -/
def print (level : Nat) : JsonValue → List Char
  | .null | .broken => ['n', 'u', 'l', 'l']
  | .bool true => ['t', 'r', 'u', 'e']
  | .bool false => ['f', 'a', 'l', 's', 'e']
  | .number text => text.toList
  | .string text => encodeString text
  | .array [] => ['[', ']']
  | .array (item :: items) =>
    '[' :: (printItems (level + 1) (item :: items) ++ newLine level ++ [']'])
  | .object [] => ['\x7b', '\x7d']
  | .object (member :: members) =>
    '\x7b' :: (printMembers (level + 1) (member :: members) ++ newLine level ++ ['\x7d'])

/-- The items of an array, each on its line. -/
def printItems (level : Nat) : List JsonValue → List Char
  | [] => []
  | [item] => newLine level ++ item.print level
  | item :: items => newLine level ++ item.print level ++ ',' :: printItems level items

/-- The members of an object, each on its line. -/
def printMembers (level : Nat) : List (String × JsonValue) → List Char
  | [] => []
  | [(name, value)] => newLine level ++ encodeString name ++ ':' :: ' ' :: value.print level
  | (name, value) :: members =>
    newLine level ++ encodeString name ++ ':' :: ' ' :: value.print level ++
      ',' :: printMembers level members

end

/-- The text of a value. -/
def pretty (value : JsonValue) : String :=
  String.ofList (value.print 0)

end CostView.JsonValue
