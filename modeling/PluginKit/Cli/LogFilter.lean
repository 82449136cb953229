import PluginKit.Pattern.Support
import PluginKit.Text.Alphanumeric
import PluginKit.Text.Blank
import PluginKit.Text.Numeral
import PluginKit.Text.Slice

/-!
# Log filters

A log filter is a list of directives with commas between them.  A directive names a target, a span
in brackets with its fields in braces, or both, and after an equals sign the least level that is
logged:

    info                        a level alone
    host=debug                  a target with its level
    host[check{fatal}]=trace    a span of a target

The places of the parts are found in the directive without the white space around it, and the parts
are then cut out at these places from the directive as it is written.  So white space in front moves
what is cut out, and where that would begin or end inside a character reading stops the program.
-/

namespace PluginKit.Cli.LogFilter

/-- What is wrong with a filter. -/
inductive Fault
  /-- A directive does not have the right form. -/
  | directive
  /-- There is no such level. -/
  | level
  /-- The pattern of a field cannot be used. -/
  | field (cause : Pattern.Fault)
  /-- A part would begin or end inside a character. -/
  | insideCharacter
  deriving DecidableEq, Repr

/-- The problem in words. -/
def Fault.message : Fault → String
  | .directive => "invalid filter directive"
  | .level =>
    "error parsing level filter: expected one of \"off\", \"error\", \"warn\", \"info\", " ++
      "\"debug\", \"trace\", or a number 0-5"
  | .field cause => "invalid field filter: " ++ cause.message
  | .insideCharacter => "byte index is not a char boundary"

/-! ## Levels and fields -/

/-- The levels by increasing number, from 0 on. -/
def levels : List (List Char) :=
  ["off".toList, "error".toList, "warn".toList, "info".toList, "debug".toList, "trace".toList]

/-- The number that a level is given by, with or without a plus sign. -/
def levelNumber? : List Char → Option Nat
  | '+' :: digits => Numeral.read? digits
  | digits => Numeral.read? digits

/-- Refuses a level that does not exist; it may be left out, and the case of its letters is free. -/
def checkLevel (text : List Char) : Except Fault Unit :=
  if text = [] ∨ levels.contains (text.map Char.toLower) then .ok ()
  else
    match levelNumber? text with
    | some number => if number < levels.length then .ok () else .error .level
    | none => .error .level

/-- The text without a sign in front. -/
def dropSign : List Char → List Char
  | c :: rest => if c = '+' || c = '-' then rest else c :: rest
  | [] => []

/-- Is this empty or the exponent of a number? -/
def isExponent : List Char → Bool
  | [] => true
  | c :: rest => (c == 'e' || c == 'E') && (Numeral.read? (dropSign rest)).isSome

/-- Is this a number, in positional or scientific form or by name? -/
def isNumber (text : List Char) : Bool :=
  let unsigned := dropSign text
  let whole := unsigned.takeWhile Char.isDigit
  let (fraction, tail) : List Char × List Char :=
    match unsigned.dropWhile Char.isDigit with
    | '.' :: rest => (rest.takeWhile Char.isDigit, rest.dropWhile Char.isDigit)
    | rest => ([], rest)
  ["inf", "infinity", "nan"].contains (String.ofList (unsigned.map Char.toLower)) ||
    ((Numeral.read? (whole ++ fraction)).isSome && isExponent tail)

/-- Refuses a field whose value, after the first equals sign and up to a second one, is neither a
number nor a pattern. -/
def checkField (text : List Char) : Except Fault Unit :=
  match text.splitOn '=' with
  | _ :: value :: _ => if isNumber value then .ok () else (Pattern.check value).mapError .field
  | _ => .ok ()

/-! ## Directives -/

/-- A place in a directive, with the position at which the part around it began. -/
inductive Place
  | start
  /-- In a level or the name of a target. -/
  | name
  /-- In the name of a span. -/
  | span (start : Nat)
  /-- In the fields of a span. -/
  | fields (start : Nat)
  /-- After the fields of a span. -/
  | spanEnd
  /-- After a span. -/
  | target
  /-- In the level of a target or span. -/
  | level (start : Nat)
  deriving DecidableEq, Repr

/-- May a directive begin with this character? -/
def beginsName (c : Char) : Bool :=
  Alphanumeric.isAlphanumeric c || c == '-' || c == ':' || c == '_'

/-- The part of a directive between two positions. -/
def part (directive : List Char) (start stop : Nat) : Except Fault (List Char) :=
  match Slice.between? start stop directive with
  | some text => .ok text
  | none => .error .insideCharacter

/-- The place behind a character at a position. -/
def step (directive : List Char) (position : Nat) (c : Char) : Place → Except Fault Place
  | .start =>
    if c = '[' then .ok (.span (position + 1))
    else if beginsName c then .ok .name
    else .error .directive
  | .name =>
    if c = '=' then do
      discard (part directive 0 position)
      return .level (position + 1)
    else if c = '[' then do
      discard (part directive 0 position)
      return .span (position + 1)
    else return .name
  | .span start =>
    if c = ']' then do
      discard (part directive start position)
      return .target
    else if c = '{' then do
      discard (part directive start position)
      return .fields (position + 1)
    else return .span start
  | .fields start =>
    if c = '}' then do
      let text ← part directive start position
      if text = [] then throw .directive
      checkField text
      return .spanEnd
    else return .fields start
  | .spanEnd => if c = ']' then .ok .target else .error .directive
  | .target => if c = '=' then .ok (.level (position + 1)) else .error .directive
  | .level start => .ok (.level start)

/-- Refuses a directive that ends at a place. -/
def finish (directive : List Char) : Place → Except Fault Unit
  | .name => do discard (part directive 0 (Slice.size directive))
  | .target => .ok ()
  | .level start => do checkLevel (← part directive start (Slice.size directive))
  | _ => .error .directive

/-- Refuses a directive that does not go on like this from a place at a position. -/
def walk (directive : List Char) : (position : Nat) → Place → List Char → Except Fault Unit
  | _, place, [] => finish directive place
  | position, place, c :: rest => do
    walk directive (position + c.utf8Size) (← step directive position c place) rest

/-- Refuses a filter with a directive that cannot be read; empty directives are passed over. -/
def check (filter : String) : Except Fault Unit :=
  ((filter.toList.splitOn ',').filter (· ≠ [])).forM fun directive =>
    walk directive 0 .start (Blank.trim directive)

end PluginKit.Cli.LogFilter
