import CostView.Binary64.Basic

/-!
# The shortest decimal that reads back

Among all decimals that round to a given number, the printed one has the fewest digits, and among
those it is the nearest; of two equally near ones the greater is taken.  The text is positional,
however large or small the number, and a whole number has no point.
-/

namespace CostView.Binary64

/-- The decimal `digits * 10 ^ exponent`. -/
structure Decimal where
  digits : Nat
  exponent : Int
deriving DecidableEq, Repr

/-- A positive number together with the reals that round to it, in units of `2 ^ unit`: from
`low` to `high`, the ends included if `closed`. -/
structure Neighbourhood where
  low : Nat
  mid : Nat
  high : Nat
  unit : Int
  closed : Bool

/-- The reals that round to `significand * 2 ^ exponent`.  Below a power of two the neighbours are
twice as close, save at the least exponent. -/
def neighbourhood (significand : Nat) (exponent : Int) : Neighbourhood where
  low := 4 * significand -
    (if significand = Nat.pow 2 52 ∧ exponent > leastExponent then 1 else 2)
  mid := 4 * significand
  high := 4 * significand + 2
  unit := exponent - 2
  closed := significand % 2 = 0

/-- The factors that bring `c * 10 ^ e` and `x * 2 ^ unit` to one scale, as `c * a` and `x * b`. -/
def scales (e unit : Int) : Nat × Nat :=
  (Nat.pow 10 e.toNat * Nat.pow 2 (-unit).toNat, Nat.pow 2 unit.toNat * Nat.pow 10 (-e).toNat)

/-- The power of ten at the first digit of `num / den`. -/
def decade (num den : Nat) : Int :=
  if num ≥ den then (Nat.toDigits 10 (num / den)).length - 1
  else
    let d := (Nat.toDigits 10 (den / num)).length
    if num * Nat.pow 10 (d - 1) = den then -(d - 1 : Int) else -(d : Int)

/-- Whether the decimal `c * 10 ^ e` lies in the neighbourhood. -/
def Neighbourhood.holds (v : Neighbourhood) (c : Nat) (e : Int) : Bool :=
  let (a, b) := scales e v.unit
  if v.closed then v.low * b ≤ c * a && c * a ≤ v.high * b
  else v.low * b < c * a && c * a < v.high * b

/-- On the grid of multiples of `10 ^ e`: the one of the two neighbours of `v` that rounds to it
and is nearer. -/
def Neighbourhood.onGrid? (v : Neighbourhood) (e : Int) : Option Decimal :=
  let (a, b) := scales e v.unit
  let c := v.mid * b / a
  let below := v.holds c e
  let above := v.holds (c + 1) e
  let nearerBelow := v.mid * b - c * a < (c + 1) * a - v.mid * b
  if below && (!above || nearerBelow) then some ⟨c, e⟩
  else if above then some ⟨c + 1, e⟩
  else none

/-- The coarsest of the next `n` grids, from `10 ^ e` downwards, that has a decimal of the
neighbourhood.  Seventeen digits always suffice. -/
def Neighbourhood.search (v : Neighbourhood) (e : Int) : Nat → Decimal
  | 0 => ⟨0, 0⟩
  | n + 1 => (v.onGrid? e).getD (v.search (e - 1) n)

/-- The decimal without trailing zeros among its digits. -/
def Decimal.normal (d : Decimal) : Nat → Decimal
  | 0 => d
  | n + 1 => if d.digits ≠ 0 ∧ d.digits % 10 = 0 then
      Decimal.normal ⟨d.digits / 10, d.exponent + 1⟩ n else d

/-- The shortest decimal that rounds to the positive number `significand * 2 ^ exponent`. -/
def shortest (significand : Nat) (exponent : Int) : Decimal :=
  let v := neighbourhood significand exponent
  let first := decade (significand * Nat.pow 2 exponent.toNat) (Nat.pow 2 (-exponent).toNat)
  (v.search first 18).normal 18

/-- The decimal in positional notation. -/
def Decimal.text (d : Decimal) : List Char :=
  let ds := Nat.toDigits 10 d.digits
  if d.exponent ≥ 0 then ds ++ List.replicate d.exponent.toNat '0'
  else
    let places := (-d.exponent).toNat
    if ds.length > places then
      ds.take (ds.length - places) ++ '.' :: ds.drop (ds.length - places)
    else '0' :: '.' :: (List.replicate (places - ds.length) '0' ++ ds)

/-- The text of a number. -/
def text : Binary64 → List Char
  | .infinite negative => sign negative ++ ['i', 'n', 'f']
  | .finite negative 0 _ => sign negative ++ ['0']
  | .finite negative m e => sign negative ++ (shortest m e).text
where
  /-- A minus sign before negative numbers. -/
  sign (negative : Bool) : List Char := if negative then ['-'] else []

end CostView.Binary64
