import PluginKit.Text.Numeral

/-!
# Plain scalars

A plain scalar, one that is written without quotes, stands for null, for a truth value or for a
number if it is spelled like one, and otherwise for its own text.  A run of digits with a
superfluous zero in front is no number.
-/

namespace PluginKit.Yaml.Plain

/-- Is this a spelling of null? -/
def isNull (text : List Char) : Bool :=
  ["~", "null", "Null", "NULL"].contains (String.ofList text)

/-- The truth value that a text spells. -/
def bool? (text : List Char) : Option Bool :=
  if ["true", "True", "TRUE"].contains (String.ofList text) then some true
  else if ["false", "False", "FALSE"].contains (String.ofList text) then some false
  else none

/-- Does the text begin with a sign? -/
def isSigned : List Char → Bool
  | c :: _ => c == '+' || c == '-'
  | [] => false

/-- The text without a plus sign in front. -/
def dropPlus : List Char → List Char
  | '+' :: rest => rest
  | text => text

/-- Is this a run of digits with a superfluous zero in front? -/
def isPaddedDigits (text : List Char) : Bool :=
  match if isSigned text then text.drop 1 else text with
  | '0' :: c :: rest => (c :: rest).all Char.isDigit
  | _ => false

/-- The number that digits denote after the mark of a base other than 10. -/
def marked? : List Char → Option Nat
  | '0' :: 'x' :: rest => Numeral.inBase? 16 rest
  | '0' :: 'o' :: rest => Numeral.inBase? 8 rest
  | '0' :: 'b' :: rest => Numeral.inBase? 2 rest
  | _ => none

/-- The natural number that a text spells, with or without a plus sign. -/
def nat? (text : List Char) : Option Nat :=
  match marked? (dropPlus text) with
  | some n => some n
  | none => if isPaddedDigits text then none else Numeral.inBase? 10 (dropPlus text)

/-- The distance below zero of the integer that a text with a minus sign spells. -/
def negated? : List Char → Option Nat
  | '-' :: rest =>
    match marked? rest with
    | some n => some n
    | none => if isPaddedDigits rest then none else Numeral.inBase? 10 rest
  | _ => none

/-- Does the text spell an integer of at most 128 bits? -/
def isInt (text : List Char) : Bool :=
  (nat? text).any (· < Nat.pow 2 128) || (negated? text).any (· ≤ Nat.pow 2 127)

/-- Is `digits * 10 ^ exponent` small enough for a binary fraction of 64 bits? -/
def isFinite (digits : Nat) (exponent : Int) : Bool :=
  let order : Int := (Numeral.write digits).length + exponent
  if digits = 0 || order < 300 then true
  else if 310 < order then false
  else
    digits * Nat.pow 10 exponent.toNat <
      (Nat.pow 2 1024 - Nat.pow 2 970) * Nat.pow 10 (-exponent).toNat

/-- The power of ten that a text spells after the letter, or 0 where the text ends. -/
def power? : List Char → Option Int
  | [] => some 0
  | c :: rest =>
    if c == 'e' || c == 'E' then
      match rest with
      | '-' :: digits => (Numeral.read? digits).map fun n => -(n : Int)
      | '+' :: digits => (Numeral.read? digits).map fun n => (n : Int)
      | digits => (Numeral.read? digits).map fun n => (n : Int)
    else none

/-- Does the text, which has no sign, spell a finite number in positional or scientific form? -/
def isDecimal (text : List Char) : Bool :=
  let whole := text.takeWhile Char.isDigit
  let (fraction, tail) : List Char × List Char :=
    match text.dropWhile Char.isDigit with
    | '.' :: rest => (rest.takeWhile Char.isDigit, rest.dropWhile Char.isDigit)
    | rest => ([], rest)
  match Numeral.read? (whole ++ fraction), power? tail with
  | some digits, some power => isFinite digits (power - fraction.length)
  | _, _ => false

/-- Does the text spell a number that is no integer, or an infinity, or no number? -/
def isFloat (text : List Char) : Bool :=
  let positive := dropPlus text
  let unsigned := if isSigned text then text.drop 1 else text
  if text != positive && isSigned positive then false
  else
    [".inf", ".Inf", ".INF"].contains (String.ofList unsigned) ||
      [".nan", ".NaN", ".NAN"].contains (String.ofList text) || isDecimal unsigned

/-- Does a plain scalar stand for its own text? -/
def isText (text : List Char) : Bool :=
  !(text.isEmpty || isNull text || (bool? text).isSome || isInt text || isFloat text ||
    isPaddedDigits text)

end PluginKit.Yaml.Plain
