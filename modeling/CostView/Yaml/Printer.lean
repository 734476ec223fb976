import CostView.Text.Hidden

/-!
# Writing scalars of a settings document

Every text can be written as a scalar between double quotes.  The quote, the backslash and all that
is hidden are escaped, so what is written takes one line and reads back as itself.
-/

namespace CostView.Yaml

/-- The last `n` hexadecimal digits of a number, with leading zeros. -/
def hexDigits (n : Nat) (value : Nat) : List Char :=
  let digits := Nat.toDigits 16 value
  List.replicate (n - digits.length) '0' ++ digits

/-- One character of a scalar between double quotes. -/
def encodeChar (c : Char) : List Char :=
  match c with
  | '"' => ['\\', '"']
  | '\\' => ['\\', '\\']
  | '\n' => ['\\', 'n']
  | '\r' => ['\\', 'r']
  | '\t' => ['\\', 't']
  | c => if Text.isHidden c then '\\' :: 'U' :: hexDigits 8 c.toNat else [c]

/-- A text as a scalar between double quotes. -/
def quotedScalar (text : String) : String :=
  String.ofList ('"' :: (text.toList.flatMap encodeChar ++ ['"']))

end CostView.Yaml
