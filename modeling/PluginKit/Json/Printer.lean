import PluginKit.Json.Basic
import PluginKit.Decimal.Style

/-!
# Writing JSON texts

A value is written on one line without white space (`compact`), or with each item and entry on a
line of its own (`pretty`).  Quotes, backslashes and control characters are escaped and nothing
else.
-/

namespace PluginKit

/-- Binary fractions in JSON texts: positional from 0.00001 to below 10 ^ 16, and a sign on every
power of ten. -/
def Number.style : Decimal.Style where
  leastPlain := -5
  greatestPlain := 15
  plusSign := true

/-- A number as it is written in JSON texts. -/
def Number.write : Number → List Char
  | .int value => (if value < 0 then ['-'] else []) ++ Numeral.write value.natAbs
  | .float value => Number.style.writeBinary value

namespace Json

/-- A digit of a hexadecimal number. -/
def hexChar (n : Nat) : Char :=
  if n < 10 then Char.ofNat ('0'.toNat + n) else Char.ofNat ('a'.toNat + (n - 10))

/-- A character as it stands in a string. -/
def escapeChar (c : Char) : List Char :=
  if c = '"' then ['\\', '"']
  else if c = '\\' then ['\\', '\\']
  else if c = '\x08' then ['\\', 'b']
  else if c = '\x0c' then ['\\', 'f']
  else if c = '\n' then ['\\', 'n']
  else if c = '\r' then ['\\', 'r']
  else if c = '\t' then ['\\', 't']
  else if c.toNat < 0x20 then
    ['\\', 'u', '0', '0', hexChar (c.toNat / 16), hexChar (c.toNat % 16)]
  else [c]

/-- A string in quotes. -/
def quote (text : String) : List Char :=
  '"' :: text.toList.flatMap escapeChar ++ ['"']

mutual

/-- A value on one line. -/
def compact : Json → List Char
  | .null => ['n', 'u', 'l', 'l']
  | .bool true => ['t', 'r', 'u', 'e']
  | .bool false => ['f', 'a', 'l', 's', 'e']
  | .num value => value.write
  | .str value => quote value
  | .arr items => '[' :: compactItems items ++ [']']
  | .obj entries => '{' :: compactEntries entries ++ ['}']

/-- Items with commas between them. -/
def compactItems : List Json → List Char
  | [] => []
  | [item] => compact item
  | item :: rest => compact item ++ ',' :: compactItems rest

/-- Entries with commas between them. -/
def compactEntries : List (String × Json) → List Char
  | [] => []
  | [(key, value)] => quote key ++ ':' :: compact value
  | (key, value) :: rest => quote key ++ ':' :: compact value ++ ',' :: compactEntries rest

end

/-- A line break and the indentation of a level. -/
def newline (level : Nat) : List Char :=
  '\n' :: List.replicate (2 * level) ' '

mutual

/-- A value that begins on a level, over several lines. -/
def prettyAt (level : Nat) : Json → List Char
  | .arr [] => ['[', ']']
  | .arr items => '[' :: prettyItems (level + 1) items ++ newline level ++ [']']
  | .obj [] => ['{', '}']
  | .obj entries => '{' :: prettyEntries (level + 1) entries ++ newline level ++ ['}']
  | .null => compact .null
  | .bool value => compact (.bool value)
  | .num value => compact (.num value)
  | .str value => compact (.str value)

/-- Items of a level, each on its own line. -/
def prettyItems (level : Nat) : List Json → List Char
  | [] => []
  | [item] => newline level ++ prettyAt level item
  | item :: rest => newline level ++ prettyAt level item ++ ',' :: prettyItems level rest

/-- Entries of a level, each on its own line. -/
def prettyEntries (level : Nat) : List (String × Json) → List Char
  | [] => []
  | [(key, value)] => newline level ++ quote key ++ ':' :: ' ' :: prettyAt level value
  | (key, value) :: rest =>
    newline level ++ quote key ++ ':' :: ' ' :: prettyAt level value ++ ',' ::
      prettyEntries level rest

end

/-- A value over several lines. -/
def pretty (value : Json) : List Char :=
  prettyAt 0 value

/-- A value on one line, as text. -/
def render (value : Json) : String :=
  String.ofList value.compact

end Json

end PluginKit
