/-!
# Tokens of JSON texts

A JSON text is cut into brackets, commas, colons, words, numerals and strings.  Only their shape is
checked here: a token keeps a numeral and a string as they are written.
-/

namespace PluginKit.Json

/-- A numeral as it is written. -/
structure Literal where
  negative : Bool
  /-- The digits before the point; a zero stands first only if it stands alone. -/
  whole : List Char
  /-- The digits after the point, if there is one. -/
  fraction : Option (List Char)
  /-- Whether the power of ten is negative, and its digits, if there is one. -/
  exponent : Option (Bool × List Char)
  deriving DecidableEq, Repr

/-- A token of a JSON text. -/
inductive Token
  | openArray
  | closeArray
  | openObject
  | closeObject
  | comma
  | colon
  | null
  | bool (value : Bool)
  | num (literal : Literal)
  /-- A string by what stands between its quotes. -/
  | str (raw : List Char)
  deriving DecidableEq, Repr

namespace Token

/-- The white space of JSON. -/
def isSpace (c : Char) : Bool :=
  c == ' ' || c == '\t' || c == '\n' || c == '\r'

/-- Is the character a hexadecimal digit? -/
def isHex (c : Char) : Bool :=
  c.isDigit || ('a' ≤ c && c ≤ 'f') || ('A' ≤ c && c ≤ 'F')

/-- What stands before the quote that ends a string, and the text after it.  No control character
may stand in a string, and only known escapes. -/
def string? : List Char → Option (List Char × List Char)
  | [] => none
  | '"' :: rest => some ([], rest)
  | '\\' :: 'u' :: a :: b :: c :: d :: rest =>
    if isHex a && isHex b && isHex c && isHex d then
      (string? rest).map fun (raw, after) => ('\\' :: 'u' :: a :: b :: c :: d :: raw, after)
    else none
  | '\\' :: c :: rest =>
    if ['"', '\\', '/', 'b', 'f', 'n', 'r', 't'].contains c then
      (string? rest).map fun (raw, after) => ('\\' :: c :: raw, after)
    else none
  | c :: rest =>
    if c.toNat < 0x20 || c == '\\' then none
    else (string? rest).map fun (raw, after) => (c :: raw, after)

/-- A non-empty run of digits and the text after it. -/
def digits? (text : List Char) : Option (List Char × List Char) :=
  match text.takeWhile Char.isDigit with
  | [] => none
  | digits => some (digits, text.dropWhile Char.isDigit)

/-- The digits before the point: one zero, or a run that does not begin with one. -/
def whole? : List Char → Option (List Char × List Char)
  | '0' :: rest => some (['0'], rest)
  | text => digits? text

/-- The fraction at the head of a text, if there is one. -/
def fraction? : List Char → Option (Option (List Char) × List Char)
  | '.' :: rest => (digits? rest).map fun (digits, after) => (some digits, after)
  | text => some (none, text)

/-- The digits of a power of ten, after its sign. -/
def power? (negative : Bool) (text : List Char) : Option (Option (Bool × List Char) × List Char) :=
  (digits? text).map fun (digits, after) => (some (negative, digits), after)

/-- The power of ten at the head of a text, if there is one. -/
def exponent? : List Char → Option (Option (Bool × List Char) × List Char)
  | c :: rest =>
    if c == 'e' || c == 'E' then
      match rest with
      | '-' :: rest => power? true rest
      | '+' :: rest => power? false rest
      | rest => power? false rest
    else some (none, c :: rest)
  | [] => some (none, [])

/-- The numeral at the head of a text, without its sign. -/
def literal? (negative : Bool) (text : List Char) : Option (Literal × List Char) := do
  let (whole, text) ← whole? text
  let (fraction, text) ← fraction? text
  let (exponent, text) ← exponent? text
  return ({ negative, whole, fraction, exponent }, text)

/-- The token at the head of a text, which does not begin with white space. -/
def next? : List Char → Option (Token × List Char)
  | '[' :: rest => some (.openArray, rest)
  | ']' :: rest => some (.closeArray, rest)
  | '{' :: rest => some (.openObject, rest)
  | '}' :: rest => some (.closeObject, rest)
  | ',' :: rest => some (.comma, rest)
  | ':' :: rest => some (.colon, rest)
  | 'n' :: 'u' :: 'l' :: 'l' :: rest => some (.null, rest)
  | 't' :: 'r' :: 'u' :: 'e' :: rest => some (.bool true, rest)
  | 'f' :: 'a' :: 'l' :: 's' :: 'e' :: rest => some (.bool false, rest)
  | '"' :: rest => (string? rest).map fun (raw, after) => (.str raw, after)
  | '-' :: rest => (literal? true rest).map fun (literal, after) => (.num literal, after)
  | text => (literal? false text).map fun (literal, after) => (.num literal, after)

/-- Collects tokens; the fuel bounds their number. -/
def scan? : (fuel : Nat) → List Char → Option (List Token)
  | 0, _ => none
  | fuel + 1, text =>
    match text.dropWhile isSpace with
    | [] => some []
    | text => do
      let (token, rest) ← next? text
      let tokens ← scan? fuel rest
      return token :: tokens

/-- The tokens of a text; none if some part of it is no token.  Each token takes up at least one
character, so that the fuel suffices. -/
def ofText? (text : List Char) : Option (List Token) :=
  scan? (text.length + 1) text

end Token

end PluginKit.Json
