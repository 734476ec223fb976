/-!
# Blank characters, trimming and ASCII case

White space is the Unicode property of that name: twenty-five characters, of which only six are
ASCII.  Case changes here touch ASCII letters alone; every other character stays as it is.
-/

namespace CostView.Text

/-- The characters with the Unicode property `White_Space`. -/
def isBlank (c : Char) : Bool :=
  let n := c.toNat
  (0x9 ≤ n && n ≤ 0xD) || n = 0x20 || n = 0x85 || n = 0xA0 || n = 0x1680 ||
    (0x2000 ≤ n && n ≤ 0x200A) || n = 0x2028 || n = 0x2029 || n = 0x202F || n = 0x205F ||
    n = 0x3000

/-- Drop the characters at both ends that satisfy `p`. -/
def trimBoth (p : Char → Bool) (s : List Char) : List Char :=
  ((s.dropWhile p).reverse.dropWhile p).reverse

theorem length_dropWhile_le (p : Char → Bool) (s : List Char) :
    (s.dropWhile p).length ≤ s.length :=
  (List.dropWhile_sublist p).length_le

theorem length_dropWhile_lt {p : Char → Bool} {s : List Char} (h : s.takeWhile p ≠ []) :
    (s.dropWhile p).length < s.length := by
  have hsplit := congrArg List.length (List.takeWhile_append_dropWhile (p := p) (l := s))
  have hpos := List.length_pos_iff.2 h
  rw [List.length_append] at hsplit
  omega

theorem length_trimBoth_le (p : Char → Bool) (s : List Char) :
    (trimBoth p s).length ≤ s.length := by
  rw [trimBoth, List.length_reverse]
  refine Nat.le_trans (length_dropWhile_le p _) ?_
  rw [List.length_reverse]
  exact length_dropWhile_le p s

/-- Remove the blanks at both ends. -/
def trim (s : List Char) : List Char :=
  trimBoth isBlank s

/-- Lower the ASCII letters. -/
def lower (s : List Char) : List Char :=
  s.map Char.toLower

/-- Remove the blanks at both ends of a string. -/
def trimmed (s : String) : String :=
  String.ofList (trim s.toList)

/-- A string with its ASCII letters lowered. -/
def lowered (s : String) : String :=
  String.ofList (lower s.toList)

@[simp] theorem toList_trimmed (s : String) : (trimmed s).toList = trim s.toList := by
  simp [trimmed]

@[simp] theorem toList_lowered (s : String) : (lowered s).toList = lower s.toList := by
  simp [lowered]

/-- `s` without the leading `p`, if it starts with it. -/
def dropLeading? (p s : List Char) : Option (List Char) :=
  if p.isPrefixOf s then some (s.drop p.length) else none

/-- Join texts with a separator between neighbours. -/
def join (separator : List Char) : List (List Char) → List Char
  | [] => []
  | [s] => s
  | s :: rest => s ++ separator ++ join separator rest

end CostView.Text
