import CostView.Json.Value

/-!
# Reading JSON

A text is one value with white space around it.  Strings hold no control characters, numbers have
no leading zeros, and no comma stands before a closing bracket.
-/

namespace CostView.JsonValue

/-- White space between the parts of a value. -/
def isSpace (c : Char) : Bool :=
  c = ' ' || c = '\t' || c = '\n' || c = '\r'

/-- What follows white space. -/
def skipSpaces (s : List Char) : List Char :=
  s.dropWhile isSpace

/-- The value of a hexadecimal digit. -/
def hexDigit? (c : Char) : Option Nat :=
  if c.isDigit then some (c.toNat - '0'.toNat)
  else if 'a' ≤ c && c ≤ 'f' then some (c.toNat - 'a'.toNat + 10)
  else if 'A' ≤ c && c ≤ 'F' then some (c.toNat - 'A'.toNat + 10)
  else none

/-- The code unit written as four hexadecimal digits. -/
def unit? (a b c d : Char) : Option Nat := do
  return (((← hexDigit? a) * 16 + (← hexDigit? b)) * 16 + (← hexDigit? c)) * 16 + (← hexDigit? d)

/-- Whether a code unit is the first half of a surrogate pair. -/
def isHigh (n : Nat) : Bool := 0xD800 ≤ n && n < 0xDC00

/-- Whether a code unit is the second half of a surrogate pair. -/
def isLow (n : Nat) : Bool := 0xDC00 ≤ n && n < 0xE000

/-- The character that a letter stands for after a backslash. -/
def escape? (c : Char) : Option Char :=
  match c with
  | '"' => some '"'
  | '\\' => some '\\'
  | '/' => some '/'
  | 'b' => some '\x08'
  | 'f' => some '\x0c'
  | 'n' => some '\n'
  | 'r' => some '\r'
  | 't' => some '\t'
  | _ => none

/-- After an opening quote: the code points of a string up to its closing quote, halves of
surrogate pairs among them as they are, and what follows. -/
def units? : List Char → Option (List Nat × List Char)
  | [] => none
  | '"' :: rest => some ([], rest)
  | '\\' :: 'u' :: a :: b :: c :: d :: rest =>
    match unit? a b c d with
    | some n => (units? rest).map fun p => (n :: p.1, p.2)
    | none => none
  | '\\' :: c :: rest =>
    match escape? c with
    | some x => (units? rest).map fun p => (x.toNat :: p.1, p.2)
    | none => none
  | c :: rest =>
    if c.toNat < 0x20 || c = '\\' then none
    else (units? rest).map fun p => (c.toNat :: p.1, p.2)

/-- The characters of code points, each surrogate pair joined into one; none if a half of a pair
stands alone. -/
def chars? : List Nat → Option (List Char)
  | [] => some []
  | n :: m :: rest =>
    if isHigh n then
      if isLow m then
        (chars? rest).map (Char.ofNat (0x10000 + (n - 0xD800) * 0x400 + (m - 0xDC00)) :: ·)
      else none
    else if isLow n then none
    else (chars? (m :: rest)).map (Char.ofNat n :: ·)
  | [n] => if isHigh n || isLow n then none else some [Char.ofNat n]

/-- After an opening quote: the string, none if it has no text, and what follows. -/
def readString? (s : List Char) : Option (Option String × List Char) :=
  (units? s).map fun p => ((chars? p.1).map String.ofList, p.2)

/-- At least one digit, and what follows the digits. -/
def digits? (s : List Char) : Option (List Char × List Char) :=
  let ds := s.takeWhile Char.isDigit
  if ds = [] then none else some (ds, s.dropWhile Char.isDigit)

/-- The whole part of a number: a zero, or digits that do not start with one. -/
def wholePart? : List Char → Option (List Char × List Char)
  | '0' :: c :: rest => if c.isDigit then none else some (['0'], c :: rest)
  | s => digits? s

/-- An optional point with the digits after it. -/
def fraction? : List Char → Option (List Char × List Char)
  | '.' :: rest => (digits? rest).map fun p => ('.' :: p.1, p.2)
  | s => some ([], s)

/-- An optional exponent. -/
def exponent? : List Char → Option (List Char × List Char)
  | c :: rest =>
    if c = 'e' || c = 'E' then
      match rest with
      | d :: more =>
        if d = '+' || d = '-' then (digits? more).map fun p => (c :: d :: p.1, p.2)
        else (digits? rest).map fun p => (c :: p.1, p.2)
      | [] => none
    else some ([], c :: rest)
  | [] => some ([], [])

/-- A number and what follows it. -/
def readNumber? (s : List Char) : Option (JsonValue × List Char) := do
  let (sign, s) := match s with
    | '-' :: rest => (['-'], rest)
    | s => ([], s)
  let (whole, s) ← wholePart? s
  let (fraction, s) ← fraction? s
  let (exponent, s) ← exponent? s
  return (.number (String.ofList (sign ++ whole ++ fraction ++ exponent)), s)

mutual

/-- A value and what follows it; `fuel` bounds the number of values and members read. -/
def readValue? (fuel : Nat) (s : List Char) : Option (JsonValue × List Char) :=
  match fuel with
  | 0 => none
  | fuel + 1 =>
    match s with
    | 'n' :: 'u' :: 'l' :: 'l' :: rest => some (.null, rest)
    | 't' :: 'r' :: 'u' :: 'e' :: rest => some (.bool true, rest)
    | 'f' :: 'a' :: 'l' :: 's' :: 'e' :: rest => some (.bool false, rest)
    | '"' :: rest =>
      (readString? rest).map fun p => (p.1.elim .broken .string, p.2)
    | '[' :: rest =>
      match skipSpaces rest with
      | ']' :: rest => some (.array [], rest)
      | rest => (readItems? fuel rest).map fun p => (.array p.1, p.2)
    | '\x7b' :: rest =>
      match skipSpaces rest with
      | '\x7d' :: rest => some (.object [], rest)
      | rest => (readMembers? fuel rest).map fun p => (p.1.elim .broken .object, p.2)
    | s => readNumber? s

/-- The items of an array up to its closing bracket. -/
def readItems? (fuel : Nat) (s : List Char) : Option (List JsonValue × List Char) :=
  match fuel with
  | 0 => none
  | fuel + 1 =>
    match readValue? fuel s with
    | none => none
    | some (item, rest) =>
      match skipSpaces rest with
      | ',' :: rest => (readItems? fuel (skipSpaces rest)).map fun p => (item :: p.1, p.2)
      | ']' :: rest => some ([item], rest)
      | _ => none

/-- The members of an object up to its closing brace; none among them if a name has no text. -/
def readMembers? (fuel : Nat) (s : List Char) :
    Option (Option (List (String × JsonValue)) × List Char) :=
  match fuel with
  | 0 => none
  | fuel + 1 =>
    match s with
    | '"' :: rest =>
      match readString? rest with
      | none => none
      | some (name, rest) =>
        match skipSpaces rest with
        | ':' :: rest =>
          match readValue? fuel (skipSpaces rest) with
          | none => none
          | some (value, rest) =>
            let member := name.map fun name => (name, value)
            match skipSpaces rest with
            | ',' :: rest =>
              (readMembers? fuel (skipSpaces rest)).map fun p =>
                ((member.bind fun m => p.1.map (m :: ·)), p.2)
            | '\x7d' :: rest => some (member.map ([·]), rest)
            | _ => none
        | _ => none
    | _ => none

end

/-- The value that a whole text holds. -/
def read? (text : String) : Option JsonValue :=
  let s := text.toList
  match readValue? (2 * s.length + 2) (skipSpaces s) with
  | some (value, rest) => if skipSpaces rest = [] then some value else none
  | none => none

end CostView.JsonValue
