/-!
# Numerals

A numeral is a non-empty run of the digits `0` to `9`; leading zeros carry no value.  `write` gives
the numeral without superfluous zeros and `read?` accepts every numeral:

    read? (write n) = some n                            (read?_write)

Numerals in other bases, with letters of either case for the digits from ten on, are read by
`inBase?`.
-/

namespace PluginKit.Numeral

/-- The number that a run of ASCII digits denotes; nothing else is a numeral. -/
def read? (text : List Char) : Option Nat :=
  if text ≠ [] ∧ text.all Char.isDigit then some (Nat.ofDigitChars 10 text 0) else none

/-- The digits of a number, without leading zeros. -/
def write (n : Nat) : List Char :=
  Nat.toDigits 10 n

/-! ## Bases up to 16 -/

/-- The value of a digit in a base. -/
def digit? (base : Nat) (c : Char) : Option Nat :=
  let value? :=
    if c.isDigit then some (c.toNat - '0'.toNat)
    else if 'a' ≤ c && c ≤ 'f' then some (c.toNat - 'a'.toNat + 10)
    else if 'A' ≤ c && c ≤ 'F' then some (c.toNat - 'A'.toNat + 10)
    else none
  value?.filter (· < base)

/-- The number that a non-empty run of digits denotes in a base. -/
def inBase? (base : Nat) (digits : List Char) : Option Nat :=
  if digits.isEmpty then none
  else digits.foldlM (fun n c => (digit? base c).map fun d => n * base + d) 0

/-! ## Lemmas -/

theorem write_ne_nil (n : Nat) : write n ≠ [] :=
  Nat.toDigits_ne_nil

theorem isDigit_of_mem_write {n : Nat} {c : Char} (h : c ∈ write n) : c.isDigit = true :=
  Nat.isDigit_of_mem_toDigits (by decide) (by decide) h

theorem read?_write (n : Nat) : read? (write n) = some n := by
  have hall : (write n).all Char.isDigit = true :=
    List.all_eq_true.2 fun _ hc => isDigit_of_mem_write hc
  rw [read?, if_pos ⟨write_ne_nil n, hall⟩, write, Nat.ofDigitChars_ten_toDigits]

end PluginKit.Numeral
