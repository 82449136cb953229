import PluginKit.Json.Printer

/-!
# Values in short

A value in a short form for people: texts stand in quotes as they are, and of a long array or object
only the size is given.
-/

namespace PluginKit.Json

/-- The greatest size of an array that is written out. -/
def maxItems : Nat :=
  3

/-- The greatest size of an object that is written out. -/
def maxEntries : Nat :=
  2

mutual

/-- A value in short. -/
def summary : Json → List Char
  | .null => compact .null
  | .bool value => compact (.bool value)
  | .num value => compact (.num value)
  | .str value => '"' :: value.toList ++ ['"']
  | .arr items =>
    if items.length ≤ maxItems then '[' :: [',', ' '].intercalate (summaryItems items) ++ [']']
    else '[' :: Numeral.write items.length ++ " items]".toList
  | .obj entries =>
    if entries.length ≤ maxEntries then
      '{' :: [',', ' '].intercalate (summaryEntries entries) ++ ['}']
    else '{' :: Numeral.write entries.length ++ " fields".toList ++ ['}']

/-- Items in short. -/
def summaryItems : List Json → List (List Char)
  | [] => []
  | item :: rest => summary item :: summaryItems rest

/-- Entries in short, each behind its key. -/
def summaryEntries : List (String × Json) → List (List Char)
  | [] => []
  | (key, value) :: rest => (key.toList ++ ':' :: ' ' :: summary value) :: summaryEntries rest

end

end PluginKit.Json
