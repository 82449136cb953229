import PluginKit.Data.Table
import PluginKit.Decimal.Binary64

/-!
# JSON values

A number is an integer of 64 bits, signed or unsigned, or a binary fraction.  The entries of an
object keep the order in which they are given; a record, a value read from outside, has each key
once and its keys in increasing order (`Json.record`).
-/

namespace PluginKit

/-- A JSON number. -/
inductive Number
  /-- An integer from `-2 ^ 63` to `2 ^ 64 - 1`. -/
  | int (value : Int)
  /-- A finite binary fraction. -/
  | float (value : Binary64)
  deriving DecidableEq, Repr

/-- Is the number 0? -/
def Number.isZero : Number → Bool
  | .int value => value == 0
  | .float value => value.isZero

/-- A JSON value. -/
inductive Json
  | null
  | bool (value : Bool)
  | num (value : Number)
  | str (value : String)
  | arr (items : List Json)
  | obj (entries : List (String × Json))
  deriving Inhabited

namespace Json

/-- A natural number as a value. -/
def ofNat (n : Nat) : Json :=
  .num (.int n)

/-- The object with these entries by increasing key; of two for one key the later stays. -/
def record (entries : List (String × Json)) : Json :=
  .obj (Entries.sort entries)

/-- The entry of an object at a key. -/
def get? (key : String) : Json → Option Json
  | .obj entries => Entries.find? key entries
  | _ => none

/-- Does the value count as true where a condition is asked for?  Null, `false`, zeros and the empty
text do not. -/
def isTruthy : Json → Bool
  | .null => false
  | .bool value => value
  | .num value => !value.isZero
  | .str value => value ≠ ""
  | .arr _ => true
  | .obj _ => true

end Json

end PluginKit
