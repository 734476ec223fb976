import CostView.Expression.Basic
import CostView.Text.Blank
import CostView.Text.Escaped

/-!
# Reading expressions

An expression is a primary followed by subscripts.  A primary is, in this order of preference, a
call, a text, a number, a column between double quotes or a bare name; an integer outside the range
of 64 bits is no number, so digits alone may still name a column.  White space inside an expression
is space, tab, line feed and carriage return; white space around it is any blank.

Whatever fails inside the parentheses of a call only means that there is no call, and the reader
falls back to a bare name.  Outside parentheses an opened subscript has to be completed.
-/

namespace CostView

namespace Expr

/-- White space between the parts of an expression. -/
def isSpace (c : Char) : Bool :=
  c = ' ' || c = '\t' || c = '\n' || c = '\r'

/-- What follows the white space at the front. -/
def skipSpaces (s : List Char) : List Char :=
  s.dropWhile isSpace

/-- The characters of bare names. -/
def isNameChar (c : Char) : Bool :=
  c.isAlphanum || c = '_'

/-- Why a text does not start with an expression; each carries the text at the place. -/
inductive Failure where
  | noExpression (rest : List Char)
  | brokenSubscript (rest : List Char)
deriving DecidableEq, Repr

/-- A value read from the front of `s`, and a shorter rest. -/
structure Reading (α : Type) (s : List Char) where
  value : α
  rest : List Char
  shorter : rest.length < s.length

theorem length_skipSpaces_le (s : List Char) : (skipSpaces s).length ≤ s.length :=
  Text.length_dropWhile_le isSpace s

/-- Skip white space, then the character `c`. -/
def skipTo? (c : Char) (s : List Char) : Option { r : List Char // r.length < s.length } :=
  match h : skipSpaces s with
  | d :: rest =>
    if d = c then
      some ⟨rest, by have := length_skipSpaces_le s; simp only [h, List.length_cons] at this; omega⟩
    else none
  | [] => none

/-- A bare name: a maximal, non-empty run of name characters. -/
def readName? (s : List Char) : Option (Reading String s) :=
  if h : s.takeWhile isNameChar = [] then none
  else
    some ⟨String.ofList (s.takeWhile isNameChar), s.dropWhile isNameChar,
      Text.length_dropWhile_lt h⟩

/-- A text between two `q`. -/
def readQuoted? (q : Char) (s : List Char) : Option (Reading String s) :=
  match s with
  | c :: rest =>
    if c = q then
      match h : Text.Quoted.scan q rest with
      | some (v, r) => some ⟨String.ofList v, r, by
          have := Text.Quoted.scan_shorter h; simp only [List.length_cons]; omega⟩
      | none => none
    else none
  | [] => none

/-- An optional sign: whether it is a minus, and what follows. -/
def readSign : List Char → Bool × List Char
  | '-' :: rest => (true, rest)
  | '+' :: rest => (false, rest)
  | s => (false, s)

/-- The integer with the given digits, if it fits into 64 bits. -/
def integer? (negative : Bool) (digits : List Char) : Option Int :=
  let n : Int := Nat.ofDigitChars 10 digits 0
  let n := if negative then -n else n
  if -(Nat.pow 2 63 : Int) ≤ n ∧ n < (Nat.pow 2 63 : Int) then some n else none

/-- The digits after a decimal point and what follows them; no digits if there is no point or
nothing after it that could be read. -/
def readFraction : List Char → List Char × List Char
  | '.' :: rest =>
    if rest.takeWhile Char.isDigit = [] then ([], '.' :: rest)
    else (rest.takeWhile Char.isDigit, rest.dropWhile Char.isDigit)
  | s => ([], s)

/-- The number with the given digits before and after the point, an integer if there are none
after it. -/
def number? (negative : Bool) (whole places : List Char) : Option Literal :=
  if places = [] then (integer? negative whole).map .integer
  else some (.float (Binary64.ofRatio negative (Nat.ofDigitChars 10 (whole ++ places) 0)
    (Nat.pow 10 places.length)))

theorem length_readSign_le (s : List Char) : (readSign s).2.length ≤ s.length := by
  unfold readSign
  split <;> simp

theorem length_readFraction_le (s : List Char) : (readFraction s).2.length ≤ s.length := by
  unfold readFraction
  split
  · split
    · simp
    · rename_i rest _
      have := Text.length_dropWhile_le Char.isDigit rest
      simp only [List.length_cons]
      omega
  · simp

/-- A number: an optional sign, digits, and optionally a point followed by digits. -/
def readNumber? (s : List Char) : Option (Reading Literal s) :=
  let whole := (readSign s).2.takeWhile Char.isDigit
  let fraction := readFraction ((readSign s).2.dropWhile Char.isDigit)
  if h : whole = [] then none
  else
    match number? (readSign s).1 whole fraction.1 with
    | none => none
    | some x => some ⟨x, fraction.2, by
        have := length_readSign_le s
        have := Text.length_dropWhile_lt h
        have : fraction.2.length ≤ _ := length_readFraction_le _
        omega⟩

/-- A primary that is no call. -/
def readSimple? (s : List Char) : Option (Reading Expr s) :=
  match readQuoted? '\'' s with
  | some r => some { r with value := .literal (.text r.value) }
  | none =>
    match readNumber? s with
    | some r => some { r with value := .literal r.value }
    | none =>
      match readQuoted? '"' s with
      | some r => some { r with value := .quoted r.value }
      | none =>
        match readName? s with
        | some r => some { r with value := .column r.value }
        | none => none

/-- The name of a call, its opening parenthesis and the white space after it. -/
def readCallHead? (s : List Char) : Option (Reading String s) :=
  match readName? s with
  | some name =>
    match skipTo? '(' name.rest with
    | some ⟨r, hr⟩ =>
      some ⟨name.value, skipSpaces r, by
        have := length_skipSpaces_le r; have := name.shorter; omega⟩
    | none => none
  | none => none

/-- What stands between the brackets of a subscript and the closing bracket; if that is broken,
the text at the place where it breaks. -/
def readSubscript (s : List Char) : Except Failure (Reading String s) :=
  let inner := skipSpaces s
  match readQuoted? '\'' inner with
  | some key =>
    match skipTo? ']' key.rest with
    | some ⟨r, hr⟩ => .ok ⟨key.value, r, by
        have := length_skipSpaces_le s
        have : key.rest.length < (skipSpaces s).length := key.shorter
        omega⟩
    | none => .error (.brokenSubscript (skipSpaces key.rest))
  | none =>
    match inner with
    | '\'' :: _ => .error (.brokenSubscript (Text.Quoted.afterLast '\'' inner))
    | _ => .error (.brokenSubscript inner)

/-- The subscripts after a primary, applied from left to right. -/
def readSubscripts (e : Expr) (s : List Char) :
    Except Failure { p : Expr × List Char // p.2.length ≤ s.length } :=
  match skipTo? '[' s with
  | none => .ok ⟨(e, s), Nat.le_refl _⟩
  | some ⟨r, hr⟩ =>
    match readSubscript r with
    | .error f => .error f
    | .ok key =>
      match readSubscripts (.subscript e key.value) key.rest with
      | .error f => .error f
      | .ok ⟨p, hp⟩ => .ok ⟨p, by have := key.shorter; omega⟩
termination_by s.length
decreasing_by have := key.shorter; omega

/-- The subscripts after a primary that was read from the front of `s`. -/
def complete {s : List Char} (e : Expr) (r : List Char) (h : r.length < s.length) :
    Except Failure (Reading Expr s) :=
  match readSubscripts e r with
  | .error f => .error f
  | .ok ⟨(e, rest), hrest⟩ => .ok ⟨e, rest, by simp only at hrest; omega⟩

/-- A primary that is no call, with its subscripts. -/
def readPlain (s : List Char) : Except Failure (Reading Expr s) :=
  match readSimple? s with
  | some r => complete r.value r.rest r.shorter
  | none => .error (.noExpression s)

mutual

/-- An expression at the front of a text. -/
def read (s : List Char) : Except Failure (Reading Expr s) :=
  match readCallHead? s with
  | none => readPlain s
  | some head =>
    let ⟨(arguments, r), hr⟩ := readArguments head.rest
    match skipTo? ')' r with
    | none => readPlain s
    | some ⟨r', hr'⟩ =>
      complete (.call head.value arguments) r' (by have := head.shorter; simp only at hr; omega)
termination_by 2 * s.length
decreasing_by have := head.shorter; omega

/-- The longest list of expressions, separated by commas, at the front of a text. -/
def readArguments (s : List Char) : { p : List Expr × List Char // p.2.length ≤ s.length } :=
  match read s with
  | .error _ => ⟨([], s), Nat.le_refl _⟩
  | .ok first =>
    match skipTo? ',' first.rest with
    | none => ⟨([first.value], first.rest), Nat.le_of_lt first.shorter⟩
    | some ⟨r, hr⟩ =>
      match readArguments (skipSpaces r) with
      | ⟨([], _), _⟩ => ⟨([first.value], first.rest), Nat.le_of_lt first.shorter⟩
      | ⟨(second :: others, r'), hr'⟩ =>
        ⟨(first.value :: second :: others, r'), by
          have := length_skipSpaces_le r; have := first.shorter; simp only at hr' ⊢; omega⟩
termination_by 2 * s.length + 1
decreasing_by
  · omega
  · have := length_skipSpaces_le r; have := first.shorter; omega

end

/-- Why a text is not an expression. -/
inductive SyntaxError where
  | empty
  | failed (failure : Failure)
  | trailing (rest : String)
deriving DecidableEq, Repr

/-- The reason given for a text that is not an expression. -/
def SyntaxError.reason : SyntaxError → String
  | .empty => "empty expression"
  | .failed (.noExpression rest) => nomination rest "Tag"
  | .failed (.brokenSubscript rest) => nomination rest "Char"
  | .trailing rest => "unexpected trailing content '" ++ rest ++ "'"
where
  /-- The place of a failure and what was looked for there. -/
  nomination (rest : List Char) (sought : String) : String :=
    "parse error: Error(Error \x7b input: " ++ String.ofList (Text.Escaped.enclose rest) ++
      ", code: " ++ sought ++ " \x7d)"

/-- Read a whole text as one expression, white space around it aside. -/
def parse (text : String) : Except SyntaxError Expr :=
  let s := Text.trim text.toList
  if s = [] then .error .empty
  else
    match read s with
    | .error f => .error (.failed f)
    | .ok r =>
      let rest := Text.trim r.rest
      if rest = [] then .ok r.value else .error (.trailing (String.ofList rest))

end Expr

end CostView
