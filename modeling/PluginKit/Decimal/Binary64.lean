/-!
# Binary fractions of 64 bits

A finite number of the 64-bit binary format is `significand * 2 ^ exponent` with a significand below
`2 ^ 53` and an exponent of at least `-1074`.  Here are the exact value of such a number, the number
nearest to a fraction (a tie goes to the even significand), and the reading of a decimal significand
with a power of ten.
-/

namespace PluginKit

/-- A finite number of the 64-bit binary format, by its sign and the 63 bits below it. -/
structure Binary64 where
  negative : Bool
  magnitude : Nat
  deriving DecidableEq, Repr, Inhabited

namespace Binary64

/-- The least significand that takes 53 bits. -/
def leastFull : Nat :=
  Nat.pow 2 52

/-- The first magnitude that no finite number has. -/
def infinity : Nat :=
  0x7ff * leastFull

/-- Is the number 0, of either sign? -/
def isZero (x : Binary64) : Bool :=
  x.magnitude == 0

/-- Significand and exponent of a magnitude. -/
def split (magnitude : Nat) : Nat × Int :=
  if magnitude < leastFull then (magnitude, -1074)
  else (leastFull + magnitude % leastFull, (magnitude / leastFull : Nat) - 1075)

/-- The fraction, numerator and denominator, that a magnitude stands for. -/
def toFraction (magnitude : Nat) : Nat × Nat :=
  let (significand, exponent) := split magnitude
  (significand * Nat.pow 2 exponent.toNat, Nat.pow 2 (-exponent).toNat)

/-- The quotient rounded to the nearest number, a tie to the even one. -/
def roundDiv (num den : Nat) : Nat :=
  let quotient := num / den
  let twice := 2 * (num % den)
  if twice < den then quotient
  else if den < twice then quotient + 1
  else quotient + quotient % 2

/-- The exponent of the largest power of two that is not above `num / den`. -/
def log2Div (num den : Nat) : Int :=
  let guess : Int := num.log2 - den.log2
  if den * Nat.pow 2 guess.toNat ≤ num * Nat.pow 2 (-guess).toNat then guess else guess - 1

/-- The magnitude nearest to `num / den`, which may be `infinity` or more. -/
def ofFraction (num den : Nat) : Nat :=
  if num = 0 then 0
  else
    let exponent := max (log2Div num den - 52) (-1074)
    let significand :=
      roundDiv (num * Nat.pow 2 (-exponent).toNat) (den * Nat.pow 2 exponent.toNat)
    (exponent + 1074).toNat * leastFull + significand

/-- The product of two magnitudes, rounded. -/
def mul (x y : Nat) : Nat :=
  let (xn, xd) := toFraction x
  let (yn, yd) := toFraction y
  ofFraction (xn * yn) (xd * yd)

/-- The quotient of two magnitudes, rounded. -/
def div (x y : Nat) : Nat :=
  let (xn, xd) := toFraction x
  let (yn, yd) := toFraction y
  ofFraction (xn * yd) (xd * yn)

/-- The power of ten with this exponent, rounded. -/
def powerOfTen (exponent : Nat) : Nat :=
  ofFraction (Nat.pow 10 exponent) 1

/-- The greatest exponent of a power of ten that is finite. -/
def maxPower : Nat :=
  308

/-- Divides a magnitude by `10 ^ exponent`, in steps of at most `10 ^ maxPower` and rounding after
each; three steps take any magnitude to 0. -/
def scaleDown (magnitude exponent : Nat) : Nat :=
  if exponent ≤ maxPower then div magnitude (powerOfTen exponent)
  else if magnitude = 0 then 0
  else scaleDown (div magnitude (powerOfTen maxPower)) (exponent - maxPower)
  termination_by exponent
  decreasing_by simp only [maxPower] at *; omega

/-- The magnitude of `significand * 10 ^ exponent`: the significand is rounded, then multiplied or
divided by the rounded power of ten, and the result rounded again.  None if it is not finite. -/
def scaleDecimal? (significand : Nat) (exponent : Int) : Option Nat :=
  let start := ofFraction significand 1
  if exponent < 0 then some (scaleDown start (-exponent).toNat)
  else if start = 0 then some 0
  else if exponent.toNat ≤ maxPower then
    let magnitude := mul start (powerOfTen exponent.toNat)
    if magnitude < infinity then some magnitude else none
  else none

end Binary64

end PluginKit
