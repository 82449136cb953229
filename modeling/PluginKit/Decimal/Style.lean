import PluginKit.Decimal.Shortest
import PluginKit.Text.Numeral

/-!
# Writing decimals

A decimal is written positionally, always with a fraction, while its order of magnitude lies within
the limits of the style; outside them one digit stands before the point and a power of ten follows.
-/

namespace PluginKit.Decimal

/-- How decimals are written. -/
structure Style where
  /-- The least order of magnitude that is written positionally. -/
  leastPlain : Int
  /-- The greatest order of magnitude that is written positionally. -/
  greatestPlain : Int
  /-- Does a plus stand before a power of ten that is not negative? -/
  plusSign : Bool
  deriving DecidableEq, Repr

/-- Digits with a point after the first `places` of them; zeros fill up on either side. -/
def positional (digits : List Char) (places : Int) : List Char :=
  if places ≤ 0 then '0' :: '.' :: List.replicate (-places).toNat '0' ++ digits
  else
    let whole := digits.take places.toNat
    let fraction := digits.drop places.toNat
    whole ++ List.replicate (places.toNat - whole.length) '0' ++ '.' ::
      (if fraction.isEmpty then ['0'] else fraction)

/-- Digits with a point after the first of them (none after a lone digit) and a power of ten. -/
def scientific (style : Style) (digits : List Char) (order : Int) : List Char :=
  let sign := if order < 0 then ['-'] else if style.plusSign then ['+'] else []
  let fraction := digits.drop 1
  digits.take 1 ++ (if fraction.isEmpty then [] else '.' :: fraction) ++
    'e' :: sign ++ Numeral.write order.natAbs

/-- A decimal in this style. -/
def Style.write (style : Style) (x : Decimal) : List Char :=
  let digits := Numeral.write x.digits
  let order : Int := if x.digits = 0 then 0 else digits.length - 1 + x.exponent
  if style.leastPlain ≤ order && order ≤ style.greatestPlain then positional digits (order + 1)
  else scientific style digits order

/-- A binary fraction in this style, by its shortest decimal. -/
def Style.writeBinary (style : Style) (x : Binary64) : List Char :=
  (if x.negative then ['-'] else []) ++ style.write (shortest x.magnitude)

end PluginKit.Decimal
