import PluginKit.Json.Printer
import PluginKit.Yaml.Character
import PluginKit.Yaml.Plain

/-!
# Writing YAML texts

Values are written in block style, with two spaces for each level.  A list that is the value of an
entry is not indented under its key; empty lists and objects are written as `[]` and `{}`.

A text is written plain if it then reads back as itself.  If it would read as another type it stands
in single quotes, and if it has line feeds in it, as a literal block.  Where the characters of the
text do not admit this, single quotes or finally double quotes take its place.
-/

namespace PluginKit.Yaml

/-! ## Texts -/

/-- How a text is written. -/
inductive Style
  | plain
  | single
  | double
  | literal
  deriving DecidableEq, Repr

/-- Is there a place in the text where the first test holds and then, one character on, the
second? -/
def hasPair (p q : Char → Bool) : List Char → Bool
  | a :: b :: rest => (p a && q b) || hasPair p q (b :: rest)
  | _ => false

/-- Does the character at the head of a text mean something of its own there? -/
def isIndicator : List Char → Bool
  | [] => false
  | c :: rest =>
    ['#', ',', '[', ']', '{', '}', '&', '*', '!', '|', '>', '\'', '"', '%', '@', '`'].contains c ||
      (['?', ':', '-'].contains c && atGap rest)

/-- Is there a colon before a gap, or a comment sign after one, further on in a text?  `gap` says
whether a gap stands before the text. -/
def hasInnerIndicator (gap : Bool) : List Char → Bool
  | [] => false
  | c :: rest =>
    (c == ':' && atGap rest) || (c == '#' && gap) ||
      hasInnerIndicator (isBlank c || isBreak c) rest

/-- Would a reader take some part of the text for syntax? -/
def hasIndicator : List Char → Bool
  | [] => false
  | c :: rest =>
    isIndicator (c :: rest) || hasInnerIndicator (isBlank c || isBreak c) rest ||
      ['-', '-', '-'].isPrefixOf (c :: rest) || ['.', '.', '.'].isPrefixOf (c :: rest)

/-- Does the text begin or end with a space or a line break? -/
def hasLooseEnd (text : List Char) : Bool :=
  let loose c := c == ' ' || isBreak c
  text.head?.any loose || text.getLast?.any loose

/-- Are there characters in the text that only double quotes can hold? -/
def needsEscapes (text : List Char) : Bool :=
  text.any (!isPrintable ·) || hasPair (· == ' ') isBreak text

/-- The style of a text. -/
def styleOf (text : List Char) : Style :=
  let lined := text.any isBreak
  if needsEscapes text then .double
  else if text.contains '\n' then
    if text.getLast? == some ' ' then .double else .literal
  else if Plain.isText text && !lined && !hasLooseEnd text && !hasIndicator text then .plain
  else if hasPair isBreak (· == ' ') text then .double
  else .single

/-- A character between double quotes. -/
def escapeChar (c : Char) : List Char :=
  let hex (width : Nat) : List Char :=
    let digits := (Nat.toDigits 16 c.toNat).map Char.toUpper
    List.replicate (width - digits.length) '0' ++ digits
  if c == '"' || c == '\\' then ['\\', c]
  else if c == '\x00' then ['\\', '0']
  else if c == '\x07' then ['\\', 'a']
  else if c == '\x08' then ['\\', 'b']
  else if c == '\t' then ['\\', 't']
  else if c == '\n' then ['\\', 'n']
  else if c == '\x0b' then ['\\', 'v']
  else if c == '\x0c' then ['\\', 'f']
  else if c == '\r' then ['\\', 'r']
  else if c == '\x1b' then ['\\', 'e']
  else if c == '\u0085' then ['\\', 'N']
  else if c == '\u2028' then ['\\', 'L']
  else if c == '\u2029' then ['\\', 'P']
  else if isPrintable c then [c]
  else if c.toNat < 0x100 then '\\' :: 'x' :: hex 2
  else if c.toNat < 0x10000 then '\\' :: 'u' :: hex 4
  else '\\' :: 'U' :: hex 8

/-- Spaces up to a column. -/
def indentation (column : Nat) : List Char :=
  List.replicate column ' '

/-- The lines of a text, each but an empty one behind an indentation.  `fresh` says whether the text
stands at the beginning of a line. -/
def indented (column : Nat) (fresh : Bool) : List Char → List Char
  | [] => []
  | c :: rest =>
    if isBreak c then c :: indented column true rest
    else (if fresh then indentation column else []) ++ c :: indented column false rest

/-- A text between single quotes, where a quote is written twice. -/
def singleQuoted (column : Nat) (text : List Char) : List Char :=
  '\'' :: indented column false (text.flatMap fun c => if c == '\'' then ['\'', '\''] else [c]) ++
    (if text.getLast?.any isBreak then indentation column else []) ++ ['\'']

/-- The sign for the line breaks at the end of a literal block: none after one break, a minus sign
where there is no break, a plus sign where there are more. -/
def chomping (text : List Char) : List Char :=
  match text.reverse with
  | [] => ['-']
  | c :: rest =>
    if !isBreak c then ['-']
    else
      match rest with
      | [] => ['+']
      | d :: _ => if isBreak d then ['+'] else []

/-- A literal block, up to the end of its last line. -/
def literalBlock (column : Nat) (text : List Char) : List Char :=
  let width := if text.head?.any fun c => c == ' ' || isBreak c then ['2'] else []
  '|' :: width ++ chomping text ++ '\n' :: indented column true text

/-- A text as it is written inside a collection whose parts begin at the column before. -/
def writeText (column : Nat) (text : String) : List Char :=
  let chars := text.toList
  match styleOf chars with
  | .plain => chars
  | .single => singleQuoted (column + 2) chars
  | .double => '"' :: chars.flatMap escapeChar ++ ['"']
  | .literal => literalBlock (column + 2) chars

/-- Ends the line, unless the text has done so. -/
def endLine (text : List Char) : List Char :=
  if text.getLast?.any isBreak then text else text ++ ['\n']

/-! ## Values -/

/-- Binary fractions in YAML texts: positional from 0.00001 to below 10 ^ 16, and no sign on a power
of ten that is not negative. -/
def numberStyle : Decimal.Style where
  leastPlain := -5
  greatestPlain := 15
  plusSign := false

/-- A number as it is written in YAML texts. -/
def writeNumber : Number → List Char
  | .int value => Number.write (.int value)
  | .float value => numberStyle.writeBinary value

/-- A value that stands on the line where it begins, up to the end of the line. -/
def writeLine (column : Nat) : Json → List Char
  | .null => ['n', 'u', 'l', 'l', '\n']
  | .bool true => ['t', 'r', 'u', 'e', '\n']
  | .bool false => ['f', 'a', 'l', 's', 'e', '\n']
  | .num value => writeNumber value ++ ['\n']
  | .str value => endLine (writeText column value)
  | .arr _ => ['[', ']', '\n']
  | .obj _ => ['{', '}', '\n']

/-- Can a key stand before its colon on one line?  It is short and has no line breaks. -/
def isSimpleKey (key : String) : Bool :=
  key.utf8ByteSize ≤ 128 && !key.toList.any isBreak

mutual

/-- The items of a list that begin at a column; `lead` stands before the first of them. -/
def writeItems (lead : List Char) (column : Nat) : List Json → List Char
  | [] => []
  | item :: rest =>
    lead ++ '-' :: ' ' :: writeInside column item ++ writeItems (indentation column) column rest

/-- The entries of an object that begin at a column; `lead` stands before the first of them.  A key
that cannot stand before a colon follows a question mark. -/
def writeEntries (lead : List Char) (column : Nat) : List (String × Json) → List Char
  | [] => []
  | (key, value) :: rest =>
    lead ++
      (if isSimpleKey key then writeText column key ++ ':' :: writeBelow column value
      else
        '?' :: ' ' :: endLine (writeText column key) ++ indentation column ++ ':' :: ' ' ::
          writeInside column value) ++
      writeEntries (indentation column) column rest

/-- A value after a mark of two characters at a column: a collection begins right there. -/
def writeInside (column : Nat) : Json → List Char
  | .arr (item :: rest) => writeItems [] (column + 2) (item :: rest)
  | .obj (entry :: rest) => writeEntries [] (column + 2) (entry :: rest)
  | .arr [] => writeLine column (.arr [])
  | .obj [] => writeLine column (.obj [])
  | .null => writeLine column .null
  | .bool value => writeLine column (.bool value)
  | .num value => writeLine column (.num value)
  | .str value => writeLine column (.str value)

/-- A value after a key at a column: a collection begins on the next line. -/
def writeBelow (column : Nat) : Json → List Char
  | .arr (item :: rest) => '\n' :: writeItems (indentation column) column (item :: rest)
  | .obj (entry :: rest) =>
    '\n' :: writeEntries (indentation (column + 2)) (column + 2) (entry :: rest)
  | .arr [] => ' ' :: writeLine column (.arr [])
  | .obj [] => ' ' :: writeLine column (.obj [])
  | .null => ' ' :: writeLine column .null
  | .bool value => ' ' :: writeLine column (.bool value)
  | .num value => ' ' :: writeLine column (.num value)
  | .str value => ' ' :: writeLine column (.str value)

end

/-- The YAML text of a value. -/
def write : Json → List Char
  | .arr (item :: rest) => writeItems [] 0 (item :: rest)
  | .obj (entry :: rest) => writeEntries [] 0 (entry :: rest)
  | value => writeLine 0 value

end PluginKit.Yaml
