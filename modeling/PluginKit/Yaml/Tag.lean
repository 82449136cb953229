import PluginKit.Text.Numeral
import PluginKit.Yaml.Character

/-!
# Tags of YAML texts

A tag is the name of a kind of nodes.  It is written in full between angle brackets, or as a handle,
for which a directive declares how the name begins, and a suffix.  Octets that cannot be written
there are given by a percent sign and two hexadecimal digits; those of one character stand together.

A name is known by its octets up to the first zero.
-/

namespace PluginKit.Yaml

/-- A tag as it is written. -/
structure Tag where
  /-- The handle; empty for a name in full. -/
  handle : List Char
  suffix : List UInt8
  deriving DecidableEq, Repr

namespace Tag

/-- May the character stand in the text of a tag?  Commas and square brackets may only in a name in
full. -/
def isTextChar (isFull : Bool) (c : Char) : Bool :=
  isNameChar c ||
    [';', '/', '?', ':', '@', '&', '=', '+', '$', '.', '%', '!', '~', '*', '\'', '(',
      ')'].contains c ||
    (isFull && [',', '[', ']'].contains c)

/-- How many octets follow the first one of a character. -/
def following? (octet : Nat) : Option Nat :=
  if octet < 0x80 then some 0
  else if 0xc0 ≤ octet && octet < 0xe0 then some 1
  else if 0xe0 ≤ octet && octet < 0xf0 then some 2
  else if 0xf0 ≤ octet && octet < 0xf8 then some 3
  else none

/-- The octets that the text of a tag spells, all of whose characters are ASCII.  `owed` octets are
still to come of a character that is given by its octets. -/
def octets? (owed : Nat) : List Char → Option (List UInt8)
  | [] => if owed = 0 then some [] else none
  | '%' :: a :: b :: rest => do
    let octet ← Numeral.inBase? 16 [a, b]
    let owed ←
      if owed = 0 then following? octet
      else if 0x80 ≤ octet && octet < 0xc0 then some (owed - 1)
      else none
    return octet.toUInt8 :: (← octets? owed rest)
  | c :: rest =>
    if owed = 0 && c != '%' then (octets? 0 rest).map (c.toNat.toUInt8 :: ·) else none

/-- The part of a name that a text spells. -/
def part? (text : List Char) : Option (List UInt8) :=
  (octets? 0 text).map (·.takeWhile (· ≠ 0))

/-- The tag with a handle and a suffix, each as it is written.  An exclamation mark alone is its own
name. -/
def ofParts? (handle suffix : List Char) : Option Tag := do
  let suffix ← part? suffix
  if handle = ['!'] ∧ suffix = [] then return ⟨[], [0x21]⟩
  else return ⟨handle, suffix⟩

/-! ## Names -/

/-- Declared handles, each with the octets by which the name of its tags begins. -/
abbrev Handles :=
  List (List Char × List UInt8)

/-- The octets of a text of ASCII characters. -/
def octets (text : String) : List UInt8 :=
  text.toList.map fun c => c.toNat.toUInt8

/-- The handles that need no declaration. -/
def usual : Handles :=
  [([], []), (['!'], octets "!"), (['!', '!'], octets "tag:yaml.org,2002:")]

/-- The name of a tag, if its handle is declared. -/
def name? (handles : Handles) (tag : Tag) : Option (List UInt8) :=
  (handles.find? (·.1 == tag.handle)).map fun (_, start) => start ++ tag.suffix

/-- The name of the tag of truth values. -/
def bool : List UInt8 :=
  octets "tag:yaml.org,2002:bool"

/-- The name of the tag of integers. -/
def int : List UInt8 :=
  octets "tag:yaml.org,2002:int"

end Tag

end PluginKit.Yaml
