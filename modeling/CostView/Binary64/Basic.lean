/-!
# Binary floating-point numbers of double precision

A number is a sign and either infinity or a significand below `2 ^ 53` scaled by a power of two
not below `2 ^ (-1074)`.  Reading a decimal rounds its exact value to the nearest number, a tie
going to the even significand.  There is no value for "not a number": no decimal denotes one.
-/

namespace CostView

/-- A double-precision number: `significand * 2 ^ exponent` with a sign, or an infinity. -/
inductive Binary64 where
  | finite (negative : Bool) (significand : Nat) (exponent : Int)
  | infinite (negative : Bool)
deriving DecidableEq, Repr

namespace Binary64

/-- The least exponent of a finite number. -/
def leastExponent : Int := -1074

/-- The greatest exponent of a finite number. -/
def greatestExponent : Int := 971

/-- Quotient rounded to the nearest integer, a half going to the even neighbour. -/
def divToEven (num den : Nat) : Nat :=
  let q := num / den
  let r := num % den
  if 2 * r > den || (2 * r = den && q % 2 = 1) then q + 1 else q

/-- The exponent at which the significand of `num / den` has 53 binary digits, or the least one. -/
def exponentOf (num den : Nat) : Int :=
  let e : Int := (Nat.log2 num : Int) - Nat.log2 den - 52
  let fits := num * Nat.pow 2 (-(e + 52)).toNat ≥ den * Nat.pow 2 (e + 52).toNat
  max (if fits then e else e - 1) leastExponent

/-- The number nearest to `num / den`. -/
def ofRatio (negative : Bool) (num den : Nat) : Binary64 :=
  if num = 0 then .finite negative 0 leastExponent
  else
    let e := exponentOf num den
    let m := divToEven (num * Nat.pow 2 (-e).toNat) (den * Nat.pow 2 e.toNat)
    let (m, e) := if m = Nat.pow 2 53 then (Nat.pow 2 52, e + 1) else (m, e)
    if e > greatestExponent then .infinite negative else .finite negative m e

end Binary64

end CostView
