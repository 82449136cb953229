import PluginKit.Decimal.Binary64

/-!
# The shortest decimal of a binary fraction

Of the decimals that read back as a given binary fraction, `shortest` is one with the fewest digits,
and of those the nearest.

The reals that round to `m * 2 ^ q` lie between the midpoints to its two neighbours, which belong to
them if and only if `m` is even.  On the grid of the multiples of `10 ^ p`, if any point lies in
that interval then so does the greatest point that is not above the value, or the one after it.  So
these two are tested, from the coarsest grid on.
-/

namespace PluginKit

/-- A positive decimal `digits * 10 ^ exponent`. -/
structure Decimal where
  digits : Nat
  exponent : Int
  deriving DecidableEq, Repr

namespace Decimal

/-- Numbers in units of a quarter of the last binary place: the value and the ends of the interval
of the numbers that round to it. -/
structure Interval where
  low : Nat
  value : Nat
  high : Nat
  closed : Bool
  deriving DecidableEq, Repr

/-- The interval of a magnitude.  The lower neighbour of a power of two is half as far away as the
upper one. -/
def Interval.ofMagnitude (magnitude : Nat) : Interval :=
  let (significand, exponent) := Binary64.split magnitude
  let step := if significand = Binary64.leastFull ∧ -1074 < exponent then 1 else 2
  { low := 4 * significand - step, value := 4 * significand, high := 4 * significand + 2,
    closed := significand % 2 == 0 }

/-- Does `num / den` lie in the interval? -/
def Interval.holds (i : Interval) (num den : Nat) : Bool :=
  if i.closed then i.low * den ≤ num && num ≤ i.high * den
  else i.low * den < num && num < i.high * den

/-- The point of the grid `10 ^ exponent` that lies in the interval of the magnitude, and of two
such points the one nearer to its value. -/
def onGrid? (magnitude : Nat) (exponent : Int) : Option Decimal :=
  let i := Interval.ofMagnitude magnitude
  let binary := (Binary64.split magnitude).2 - 2
  -- one step of the grid is `num / den` quarters
  let num := Nat.pow 10 exponent.toNat * Nat.pow 2 (-binary).toNat
  let den := Nat.pow 10 (-exponent).toNat * Nat.pow 2 binary.toNat
  let below := i.value * den / num
  let above := below + 1
  let belowIn := below ≠ 0 && i.holds (below * num) den
  let aboveIn := i.holds (above * num) den
  let gapBelow := i.value * den - below * num
  let gapAbove := above * num - i.value * den
  if belowIn && aboveIn then
    if gapBelow < gapAbove || (gapBelow == gapAbove && below % 2 == 0) then
      some ⟨below, exponent⟩
    else some ⟨above, exponent⟩
  else if belowIn then some ⟨below, exponent⟩
  else if aboveIn then some ⟨above, exponent⟩
  else none

/-- The exponent of a power of ten that is above every number with this magnitude, by at most three
places. -/
def topExponent (magnitude : Nat) : Int :=
  let (significand, exponent) := Binary64.split magnitude
  -- 30103 / 100000 is a little more than the logarithm of 2
  ((significand.log2 : Int) + 1 + exponent) * 30103 / 100000 + 2

/-- The first grid with a hit, from `10 ^ exponent` down. -/
def search (magnitude : Nat) : (steps : Nat) → (exponent : Int) → Option Decimal
  | 0, _ => none
  | steps + 1, exponent => onGrid? magnitude exponent <|> search magnitude steps (exponent - 1)

/-- The shortest decimal that reads back as the magnitude; 0 for 0. -/
def shortest (magnitude : Nat) : Decimal :=
  if magnitude = 0 then ⟨0, 0⟩
  else (search magnitude 24 (topExponent magnitude)).getD ⟨0, 0⟩

end Decimal

end PluginKit
