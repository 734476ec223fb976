import CostView.Text.Hidden

/-!
# Escaped text in diagnostics

A diagnostic that quotes a piece of input writes it between double quotes and shows what would not
be legible there: the quote and the backslash after a backslash, the usual control characters by
their letters, and every other hidden character by its code point in braces.
-/

namespace CostView.Text.Escaped

/-- Lower-case hexadecimal digits of a code point, without leading zeros. -/
def hex (n : Nat) : List Char :=
  Nat.toDigits 16 n

/-- One character as it stands in an escaped text. -/
def encodeChar (c : Char) : List Char :=
  match c with
  | '\x00' => ['\\', '0']
  | '\t' => ['\\', 't']
  | '\n' => ['\\', 'n']
  | '\r' => ['\\', 'r']
  | '"' => ['\\', '"']
  | '\\' => ['\\', '\\']
  | c => if isHidden c then ['\\', 'u', '\x7b'] ++ hex c.toNat ++ ['\x7d'] else [c]

/-- A text between double quotes, escaped. -/
def enclose (s : List Char) : List Char :=
  '"' :: (s.flatMap encodeChar ++ ['"'])

end CostView.Text.Escaped
