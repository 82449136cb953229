/-!
# Blank characters

The 25 characters with the Unicode property `White_Space`, and the removal of a blank tail.
-/

namespace PluginKit.Blank

/-- The characters with the Unicode property `White_Space`. -/
def table : List Char :=
  ['\t', '\n', '\x0b', '\x0c', '\r', ' ', '\u0085', '\u00a0', '\u1680', '\u2000', '\u2001',
    '\u2002', '\u2003', '\u2004', '\u2005', '\u2006', '\u2007', '\u2008', '\u2009', '\u200a',
    '\u2028', '\u2029', '\u202f', '\u205f', '\u3000']

/-- Is the character white space? -/
def isBlank (c : Char) : Bool :=
  table.contains c

/-- The text up to its last character that is not blank. -/
def trimEnd (text : List Char) : List Char :=
  (text.reverse.dropWhile isBlank).reverse

/-- The text from its first character that is not blank to its last. -/
def trim (text : List Char) : List Char :=
  trimEnd (text.dropWhile isBlank)

end PluginKit.Blank
