import PluginKit.Yaml.Scalar
import PluginKit.Yaml.Tag

/-!
# Tokens of YAML texts

A YAML text is cut into scalars, properties, aliases and marks.  The marks tell where collections
begin and end: in block style their beginning and end follow from the indentation, and a key without
a question mark is known only when its colon is met.  So a place that may turn out to be a key is
remembered, and the marks for it are put in there afterwards.
-/

namespace PluginKit.Yaml

/-- How a scalar is written. -/
inductive Form
  | plain
  /-- In single or double quotes. -/
  | quoted
  /-- A block that keeps its line breaks. -/
  | literal
  /-- A block whose lines are joined. -/
  | folded
  deriving DecidableEq, Repr

/-- A token of a YAML text. -/
inductive Token
  /-- A directive that states the version. -/
  | versionDirective
  /-- A directive that declares a handle, with the beginning of the names of its tags. -/
  | handleDirective (handle : List Char) (start : List UInt8)
  | documentStart
  | documentEnd
  | blockSequence
  | blockMapping
  /-- A collection in block style ends. -/
  | blockEnd
  | flowSequence
  | flowSequenceEnd
  | flowMapping
  | flowMappingEnd
  /-- An item of a list in block style begins. -/
  | blockEntry
  /-- The comma between the parts of a collection in brackets. -/
  | flowEntry
  | key
  | value
  | alias (name : List Char)
  | anchor (name : List Char)
  | tag (tag : Tag)
  | scalar (form : Form) (text : List Char)
  deriving DecidableEq, Repr

namespace Token

/-- A place that may turn out to be a key. -/
structure KeyPlace where
  /-- How many tokens stand before it. -/
  count : Nat
  /-- How many bytes stand before it. -/
  position : Nat
  line : Nat
  column : Nat
  /-- Must it turn out to be a key? -/
  required : Bool

/-- The state of cutting a text. -/
structure Scanner where
  cursor : Cursor
  /-- The tokens so far, in reverse. -/
  tokens : List Token := []
  /-- How many tokens there are so far. -/
  count : Nat := 0
  /-- How many brackets are open. -/
  flow : Nat := 0
  /-- The columns of the open collections in block style, inmost first. -/
  columns : List Nat := []
  /-- May a key begin here? -/
  keyAllowed : Bool := true
  /-- The place of a possible key for each level of brackets, inmost first. -/
  places : List (Option KeyPlace) := [none]

namespace Scanner

/-- Adds a token at the end. -/
def push (s : Scanner) (token : Token) : Scanner :=
  { s with tokens := token :: s.tokens, count := s.count + 1 }

/-- Puts in a token at a position. -/
def insertAt (s : Scanner) (position : Nat) (token : Token) : Scanner :=
  let behind := s.count - position
  { s with
    tokens := s.tokens.take behind ++ token :: s.tokens.drop behind
    count := s.count + 1 }

/-- Moves on by some characters. -/
def skip (s : Scanner) (count : Nat) : Scanner :=
  { s with cursor := s.cursor.skip count }

/-- Allows a key here, or not. -/
def allowKey (s : Scanner) (allowed : Bool) : Scanner :=
  { s with keyAllowed := allowed }

/-! ## Collections in block style -/

/-- Opens a collection in block style at a column that is further right than the inmost one; its
mark goes to a position. -/
def openBlock (s : Scanner) (column position : Nat) (token : Token) : Scanner :=
  if s.flow ≠ 0 then s
  else if s.columns.head?.all (· < column) then
    ({ s with columns := column :: s.columns }).insertAt position token
  else s

/-- Closes the collections in block style to the right of a column, or all of them without one. -/
def closeBlocks (s : Scanner) (column : Option Nat) : Scanner :=
  if s.flow ≠ 0 then s
  else
    let ended := s.columns.takeWhile fun c => column.all (· < c)
    { s with
      columns := s.columns.drop ended.length
      tokens := List.replicate ended.length .blockEnd ++ s.tokens
      count := s.count + ended.length }

/-! ## Places of possible keys -/

/-- Forgets the place of a possible key.  It may not be one that must be a key. -/
def dropPlace? (s : Scanner) : Option Scanner :=
  match s.places with
  | some place :: outer => if place.required then none else some { s with places := none :: outer }
  | _ => some s

/-- Remembers this place, if a key may begin here. -/
def markPlace? (s : Scanner) : Option Scanner :=
  if s.keyAllowed then do
    let s ← s.dropPlace?
    let c := s.cursor
    let place : KeyPlace :=
      { count := s.count, position := c.position, line := c.line, column := c.column
        required := s.flow == 0 && s.columns.head? == some c.column }
    return { s with places := some place :: s.places.drop 1 }
  else some s

/-- The place of the key before the cursor.  A key stands on one line and within 1024 bytes. -/
def place? (s : Scanner) : Option (Option KeyPlace) :=
  match s.places with
  | some place :: _ =>
    if place.line < s.cursor.line || place.position + 1024 < s.cursor.position then
      if place.required then none else some none
    else some (some place)
  | _ => some none

/-! ## Marks -/

/-- A bracket opens. -/
def openFlow? (s : Scanner) (token : Token) : Option Scanner := do
  let s ← s.markPlace?
  let s := { s with flow := s.flow + 1, places := none :: s.places }
  return (s.allowKey true).push token |>.skip 1

/-- A bracket closes. -/
def closeFlow? (s : Scanner) (token : Token) : Option Scanner := do
  let s ← s.dropPlace?
  let s := if s.flow = 0 then s else { s with flow := s.flow - 1, places := s.places.drop 1 }
  return (s.allowKey false).push token |>.skip 1

/-- A comma inside brackets. -/
def flowEntry? (s : Scanner) : Option Scanner := do
  let s ← s.dropPlace?
  return (s.allowKey true).push .flowEntry |>.skip 1

/-- The hyphen of an item, or the question mark of a key, in block style or inside brackets. -/
def entry? (s : Scanner) (collection token : Token) (allowed : Bool) : Option Scanner :=
  if s.flow = 0 && !s.keyAllowed then none
  else do
    let s ← (s.openBlock s.cursor.column s.count collection).dropPlace?
    return (s.allowKey allowed).push token |>.skip 1

/-- The colon after a key. -/
def value? (s : Scanner) : Option Scanner := do
  match ← s.place? with
  | some place =>
    let s := (s.insertAt place.count .key).openBlock place.column place.count .blockMapping
    let s := { s with places := none :: s.places.drop 1 }
    return (s.allowKey false).push .value |>.skip 1
  | none =>
    if s.flow = 0 && !s.keyAllowed then none
    else
      let s := s.openBlock s.cursor.column s.count .blockMapping
      return (s.allowKey (s.flow = 0)).push .value |>.skip 1

/-- A marker of a document's beginning or end. -/
def documentMarker? (s : Scanner) (token : Token) : Option Scanner := do
  let s ← (s.closeBlocks none).dropPlace?
  return (s.allowKey false).push token |>.skip 3

/-! ## Names -/

/-- The name of an anchor or an alias, after its sign. -/
def name? (s : Scanner) (token : List Char → Token) : Option Scanner := do
  let s ← s.markPlace?
  let (name, c) := s.cursor.skip.takeWhile isNameChar
  let follows :=
    atGap c.rest || c.rest.head?.any fun d => ['?', ':', ',', ']', '}', '%', '@', '`'].contains d
  if name.isEmpty || !follows then none
  else return { ((s.allowKey false).push (token name)) with cursor := c }

/-- A tag: its name in full within angle brackets, or a handle between exclamation marks and a
suffix. -/
def tag? (s : Scanner) : Option Scanner := do
  let s ← s.markPlace?
  let c := s.cursor.skip
  let (written, c) ←
    if c.at? '<' then do
      let (text, c) := c.skip.takeWhile (Tag.isTextChar true)
      if c.at? '>' && !text.isEmpty then (Tag.ofParts? [] text).map fun t => (t, c.skip)
      else none
    else do
      let (name, after) := c.takeWhile isNameChar
      let (handle, c) := if after.at? '!' then ('!' :: name ++ ['!'], after.skip) else (['!'], c)
      let (suffix, c) := c.takeWhile (Tag.isTextChar false)
      if handle == ['!'] || !suffix.isEmpty then
        (Tag.ofParts? handle suffix).map fun t => (t, c)
      else none
  if atGap c.rest || (s.flow ≠ 0 && c.at? ',') then
    return { ((s.allowKey false).push (.tag written)) with cursor := c }
  else none

/-- The rest of a line that only a comment may follow. -/
def toLineEnd? (c : Cursor) : Option Cursor :=
  let c := c.skipWhile isBlank
  let c := if c.at? '#' then c.skipLine else c
  if atLineEnd c.rest then some c.takeBreak.2 else none

/-- The version that a directive states: 1.1 or 1.2. -/
def versionDirective? (c : Cursor) : Option Cursor := do
  let (major, c) := (c.skipWhile isBlank).takeWhile Char.isDigit
  if !c.at? '.' then none
  else
    let (minor, c) := c.skip.takeWhile Char.isDigit
    let number digits := if digits.length ≤ 9 then Numeral.read? digits else none
    if number major == some 1 && (number minor == some 1 || number minor == some 2) then some c
    else none

/-- The handle that a directive declares, with the beginning of the names of its tags. -/
def handleDirective? (c : Cursor) : Option (List Char × List UInt8 × Cursor) := do
  let c := c.skipWhile isBlank
  if !c.at? '!' then none
  else
    let (name, c) := c.skip.takeWhile isNameChar
    let (handle, c) := if c.at? '!' then ('!' :: name ++ ['!'], c.skip) else ('!' :: name, c)
    if (handle.getLast? != some '!') || !(c.rest.head?.any isBlank) then none
    else
      let (text, c) := (c.skipWhile isBlank).takeWhile (Tag.isTextChar true)
      if text.isEmpty || !atGap c.rest then none
      else (Tag.part? text).map fun start => (handle, start, c)

/-- A directive. -/
def directive? (s : Scanner) : Option Scanner := do
  let s ← (s.closeBlocks none).dropPlace?
  let (name, c) := s.cursor.skip.takeWhile isNameChar
  if !atGap c.rest then none
  else if name == ['Y', 'A', 'M', 'L'] then
    let c ← (versionDirective? c).bind toLineEnd?
    return { ((s.allowKey false).push .versionDirective) with cursor := c }
  else if name == ['T', 'A', 'G'] then
    let (handle, start, c) ← handleDirective? c
    let c ← toLineEnd? c
    return { ((s.allowKey false).push (.handleDirective handle start)) with cursor := c }
  else none

/-! ## Scalars

The fuel of a scalar is more than the characters that are left. -/

/-- A block. -/
def block? (fuel : Nat) (literal : Bool) (s : Scanner) : Option Scanner := do
  let s ← s.dropPlace?
  let (text, c) ← Scalar.block? literal s.columns.head? fuel s.cursor.skip
  let form := if literal then Form.literal else Form.folded
  return { ((s.allowKey true).push (.scalar form text)) with cursor := c }

/-- A scalar in quotes. -/
def quoted? (fuel : Nat) (single : Bool) (s : Scanner) : Option Scanner := do
  let s ← s.markPlace?
  let (text, c) ← Scalar.quoted? single fuel [] s.cursor.skip
  return { ((s.allowKey false).push (.scalar .quoted text)) with cursor := c }

/-- A plain scalar. -/
def plain? (fuel : Nat) (s : Scanner) : Option Scanner := do
  let s ← s.markPlace?
  let least := (s.columns.head?.map (· + 1)).getD 0
  let (text, broken, c) ← Scalar.plain? (s.flow ≠ 0) least fuel [] {} s.cursor
  return { ((s.allowKey broken).push (.scalar .plain text)) with cursor := c }

/-! ## All tokens -/

/-- Moves on to the next token.  A byte order mark may stand at the beginning of a line, and tabs
count as blanks only where no key may begin. -/
def skipGap (fuel : Nat) (s : Scanner) : Scanner :=
  match fuel with
  | 0 => s
  | fuel + 1 =>
    let tabs := s.flow ≠ 0 || !s.keyAllowed
    let c := if s.cursor.column == 0 && s.cursor.at? mark then s.cursor.skip else s.cursor
    let c := c.skipWhile fun d => d == ' ' || (tabs && d == '\t')
    let c := if c.at? '#' then c.skipLine else c
    if c.rest.head?.any isBreak then
      skipGap fuel { s with cursor := c.takeBreak.2, keyAllowed := s.keyAllowed || s.flow = 0 }
    else { s with cursor := c }

/-- May a plain scalar begin with this text? -/
def beginsPlain (inFlow : Bool) : List Char → Bool
  | [] => false
  | '-' :: rest => !(rest.head?.any isBlank)
  | c :: rest =>
    if c == '?' || c == ':' then !inFlow && !atGap rest
    else
      !(isBlank c || isBreak c ||
        [',', '[', ']', '{', '}', '#', '&', '*', '!', '|', '>', '\'', '"', '%', '@',
          '`'].contains c)

/-- Reads the token at the cursor, where the text does not end. -/
def token? (fuel : Nat) (s : Scanner) : Option Scanner :=
  let inFlow := s.flow ≠ 0
  let text := s.cursor.rest
  let gapAfter := atGap (text.drop 1)
  if s.cursor.column == 0 && s.cursor.at? '%' then s.directive?
  else if s.cursor.column == 0 && atMarker '-' text then s.documentMarker? .documentStart
  else if s.cursor.column == 0 && atMarker '.' text then s.documentMarker? .documentEnd
  else
    match text.head? with
    | some '[' => s.openFlow? .flowSequence
    | some '{' => s.openFlow? .flowMapping
    | some ']' => s.closeFlow? .flowSequenceEnd
    | some '}' => s.closeFlow? .flowMappingEnd
    | some ',' => s.flowEntry?
    | some '*' => s.name? .alias
    | some '&' => s.name? .anchor
    | some '!' => s.tag?
    | some '\'' => s.quoted? fuel true
    | some '"' => s.quoted? fuel false
    | some '-' =>
      if gapAfter then s.entry? .blockSequence .blockEntry true
      else if beginsPlain inFlow text then s.plain? fuel else none
    | some '?' =>
      if inFlow || gapAfter then s.entry? .blockMapping .key !inFlow
      else if beginsPlain inFlow text then s.plain? fuel else none
    | some ':' =>
      if inFlow || gapAfter then s.value?
      else if beginsPlain inFlow text then s.plain? fuel else none
    | some '|' => if inFlow then none else s.block? fuel true
    | some '>' => if inFlow then none else s.block? fuel false
    | _ => if beginsPlain inFlow text then s.plain? fuel else none

/-- Reads all tokens up to the end of the text.  The fuel is more than the characters that are
left. -/
def run? : (fuel : Nat) → Scanner → Option Scanner
  | 0, _ => none
  | fuel + 1, s =>
    let s := s.skipGap (fuel + 1)
    if s.cursor.rest.isEmpty then (s.closeBlocks none).dropPlace?
    else do
      let s ← (s.closeBlocks (some s.cursor.column)).token? (fuel + 1)
      run? fuel s

end Scanner

/-- The tokens of a text; none if some part of it is no token. -/
def ofText? (text : List Char) : Option (List Token) :=
  if text.all isAllowed then
    (Scanner.run? (text.length + 1) { cursor := { rest := text } }).map (·.tokens.reverse)
  else none

end Token

end PluginKit.Yaml
