import PluginKit.Text.Slice
import PluginKit.Yaml.Character

/-!
# Reading along a YAML text

A cursor stands somewhere in a text and knows its line and column, both counted in characters, and
its position, counted in bytes.  It moves on by a character or by a line break, where a carriage
return and a line feed together are one break.
-/

namespace PluginKit.Yaml

/-- A place in a text. -/
structure Cursor where
  /-- The text that follows. -/
  rest : List Char
  /-- How many bytes of UTF-8 stand before it. -/
  position : Nat := 0
  line : Nat := 0
  column : Nat := 0

namespace Cursor

/-- Moves on by some characters, none of which is a line break. -/
def skip (c : Cursor) (count : Nat := 1) : Cursor :=
  { c with
    rest := c.rest.drop count
    position := c.position + Slice.size (c.rest.take count)
    column := c.column + count }

/-- The line break at the cursor as it enters a scalar, and the place after it.  Nothing happens
where there is none. -/
def takeBreak (c : Cursor) : List Char × Cursor :=
  let after (count : Nat) : Cursor :=
    { rest := c.rest.drop count
      position := c.position + Slice.size (c.rest.take count)
      line := c.line + 1
      column := 0 }
  match c.rest with
  | '\r' :: '\n' :: _ => (['\n'], after 2)
  | '\u2028' :: _ => (['\u2028'], after 1)
  | '\u2029' :: _ => (['\u2029'], after 1)
  | b :: _ => if isBreak b then (['\n'], after 1) else ([], c)
  | [] => ([], c)

/-- The characters up to the first that fails a test, and the place of that one.  No line break may
pass the test. -/
def takeWhile (c : Cursor) (test : Char → Bool) : List Char × Cursor :=
  let taken := c.rest.takeWhile test
  (taken, c.skip taken.length)

/-- The place of the first character that fails a test. -/
def skipWhile (c : Cursor) (test : Char → Bool) : Cursor :=
  (c.takeWhile test).2

/-- Moves on to the end of the line. -/
def skipLine (c : Cursor) : Cursor :=
  c.skipWhile (!isBreak ·)

/-- Does the text go on with this character? -/
def at? (c : Cursor) (char : Char) : Bool :=
  c.rest.head? == some char

/-- Does a marker of a document's beginning or end stand here? -/
def atDocumentMarker (c : Cursor) : Bool :=
  c.column == 0 && Yaml.atDocumentMarker c.rest

end Cursor

end PluginKit.Yaml
