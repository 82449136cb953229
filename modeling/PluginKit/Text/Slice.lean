/-!
# Slices of texts

A slice of a text lies between two positions that are counted in bytes of UTF-8.  There is none if a
position falls inside a character.
-/

namespace PluginKit.Slice

/-- How many bytes a text takes. -/
def size : List Char → Nat
  | [] => 0
  | c :: rest => c.utf8Size + size rest

/-- The text behind some bytes. -/
def drop? : (count : Nat) → List Char → Option (List Char)
  | 0, text => some text
  | _ + 1, [] => none
  | count + 1, c :: rest =>
    if c.utf8Size ≤ count + 1 then drop? (count + 1 - c.utf8Size) rest else none

/-- The text that takes some bytes from the beginning. -/
def take? : (count : Nat) → List Char → Option (List Char)
  | 0, _ => some []
  | _ + 1, [] => none
  | count + 1, c :: rest =>
    if c.utf8Size ≤ count + 1 then (take? (count + 1 - c.utf8Size) rest).map (c :: ·) else none

/-- The text between two positions. -/
def between? (start stop : Nat) (text : List Char) : Option (List Char) :=
  (drop? start text).bind (take? (stop - start))

end PluginKit.Slice
