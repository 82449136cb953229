import PluginKit.Pattern.Basic
import PluginKit.Text.Alphanumeric
import PluginKit.Text.Blank
import PluginKit.Text.Numeral

/-!
# Reading patterns

`Pattern.ofText?` reads a pattern.  Its signs are

    .  ^  $  |  *  +  ?  ( … )  (?<name> … )  (?switches)  (?switches: … )  [ … ]  \

and the other characters stand for themselves.  Numbers of repetitions in braces are not part of
the language, so that an opening brace stands for itself only behind a backslash or in a class.
-/

namespace PluginKit.Pattern

/-- What is known while a pattern is read: the text that follows, whether white space and comments
may stand between the parts, and the names of the groups so far. -/
structure Reader where
  rest : List Char
  verbose : Bool := false
  names : List (List Char) := []

/-- Reading a part of a pattern, which may fail. -/
abbrev Read := StateT Reader Option

/-! ## Steps along the text -/

/-- The text behind white space and comments. -/
def afterSpace (inComment : Bool) : List Char → List Char
  | [] => []
  | c :: rest =>
    if inComment then afterSpace (c != '\n') rest
    else if Blank.isBlank c then afterSpace false rest
    else if c == '#' then afterSpace true rest
    else c :: rest

/-- The character behind white space and the sign of a comment, or the first one if there is no
other. -/
def ahead? (text : List Char) : Option Char :=
  let found :=
    match text.dropWhile Blank.isBlank with
    | '#' :: comment => comment.dropWhile Blank.isBlank
    | rest => rest
  (found.head?).or text.head?

namespace Read

/-- The next character; there must be one. -/
def peek : Read Char := do
  match (← get).rest with
  | c :: _ => return c
  | [] => failure

/-- Moves on by some characters. -/
def skip (count : Nat := 1) : Read Unit :=
  modify fun r => { r with rest := r.rest.drop count }

/-- Moves on over white space and comments, where they may stand. -/
def skipSpace : Read Unit :=
  modify fun r => if r.verbose then { r with rest := afterSpace false r.rest } else r

/-- Moves on over a text, if it comes next. -/
def skipText (text : String) : Read Bool := do
  if text.toList.isPrefixOf (← get).rest then
    skip text.length
    return true
  else return false

end Read

open Read

/-! ## Atoms -/

/-- The characters that a backslash leaves as they are: ASCII characters other than letters, digits
and angle brackets. -/
def isPunctuation (c : Char) : Bool :=
  c ≤ '\x7f' && !c.isAlphanum && c != '<' && c != '>'

/-- The control character of an escape with one letter. -/
def control? : Char → Option Char
  | 'a' => some '\x07'
  | 'f' => some '\x0c'
  | 't' => some '\t'
  | 'n' => some '\n'
  | 'r' => some '\r'
  | 'v' => some '\x0b'
  | _ => none

/-- How many digits follow the letter of an escape. -/
def escapeWidth? : Char → Option Nat
  | 'x' => some 2
  | 'u' => some 4
  | 'U' => some 8
  | _ => none

/-- Reads the digits of an escape, the number so far given. -/
def readDigits : (width : Nat) → (code : Nat) → Read Char
  | 0, code => if code.isValidChar then return Char.ofNat code else failure
  | width + 1, code => do
    skipSpace
    match Numeral.digit? 16 (← peek) with
    | some digit => do
      skip
      readDigits width (code * 16 + digit)
    | none => failure

/-- Reads what a backslash begins, behind the backslash. -/
def readEscape : Read Atom := do
  let c ← peek
  skip
  if let some width := escapeWidth? c then return .char (← readDigits width 0) (c == 'x')
  else if let some control := control? c then return .char control false
  else if ['d', 's', 'w'].contains c then return .shorthand false
  else if ['D', 'S', 'W'].contains c then return .shorthand true
  else if ['p', 'P'].contains c then return .property
  else if ['A', 'z'].contains c then return .edge
  else if ['b', 'B', '<', '>'].contains c then return .wordEdge
  else if isPunctuation c then return .char c false
  else failure

/-- Reads an atom. -/
def readAtom : Read Atom := do
  let c ← peek
  skip
  match c with
  | '\\' => readEscape
  | '.' => return .any
  | '^' => return .edge
  | '$' => return .edge
  | c => return .char c false

/-! ## Classes -/

/-- The names of classes. -/
def classNames : List String :=
  ["alnum", "alpha", "ascii", "blank", "cntrl", "digit", "graph", "lower", "print", "punct",
    "space", "upper", "word", "xdigit"]

/-- The class with a name at the head of a text, within brackets and colons, and the text behind
it. -/
def named? : List Char → Option (CharSet × List Char)
  | '[' :: ':' :: rest =>
    let negated := rest.head? == some '^'
    let rest := if negated then rest.drop 1 else rest
    match rest.dropWhile (· != ':') with
    | ':' :: ']' :: after =>
      if classNames.contains (String.ofList (rest.takeWhile (· != ':'))) then
        some (.named negated, after)
      else none
    | _ => none
  | _ => none

/-- The operation whose sign is twice this character. -/
def operation? : Char → Option Operation
  | '&' => some .intersection
  | '-' => some .difference
  | '~' => some .symmetricDifference
  | _ => none

/-- The operation at the head of a text. -/
def operationAt? : List Char → Option Operation
  | a :: b :: _ => if a = b then operation? a else none
  | _ => none

/-- Reads a member of a class. -/
def readMember : Read Atom := do
  let c ← peek
  skip
  if c = '\\' then readEscape else return .char c false

/-- The set that a member of a class stands for. -/
def memberSet : Atom → Read CharSet
  | .char c _ => return .range c c
  | .shorthand negated => return .shorthand negated
  | .property => return .property
  | _ => failure

/-- Reads a member of a class, or a range between two of them.  A hyphen before the closing bracket
or another hyphen makes no range. -/
def readRange : Read CharSet := do
  let first ← readMember
  skipSpace
  match (← get).rest with
  | [] => failure
  | c :: rest => do
    let next := if (← get).verbose then ahead? rest else rest.head?
    if c != '-' || next == some ']' || next == some '-' then memberSet first
    else do
      skip
      skipSpace
      match first, ← readMember with
      | .char first _, .char last _ =>
        if first ≤ last then return .range first last else failure
      | _, _ => failure

/-- Reads the hyphens at the beginning of a class. -/
def readHyphens : (fuel : Nat) → Read (List CharSet)
  | 0 => failure
  | fuel + 1 => do
    if (← peek) = '-' then
      skip
      skipSpace
      return .range '-' '-' :: (← readHyphens fuel)
    else return []

/-- The set on the right of an operation, with what stands on its left. -/
def combined : Option (CharSet × Operation) → CharSet → CharSet
  | none, right => right
  | some (left, operation), right => .combination operation left right

mutual

/-- Reads a class in brackets.  A closing bracket that comes first stands for itself. -/
def readBrackets : (fuel : Nat) → Read CharSet
  | 0 => failure
  | fuel + 1 => do
    skip
    skipSpace
    let negated := (← peek) = '^'
    if negated then
      skip
      skipSpace
    let hyphens ← readHyphens fuel
    if hyphens.isEmpty && (← peek) = ']' then
      skip
      skipSpace
      return .brackets negated (← readMembers none [.range ']' ']'] fuel)
    else return .brackets negated (← readMembers none hyphens fuel)

/-- Reads the members of a class up to its closing bracket: those behind an operation so far are
given in reverse, with what stands on its left. -/
def readMembers (left : Option (CharSet × Operation)) (done : List CharSet) :
    (fuel : Nat) → Read CharSet
  | 0 => failure
  | fuel + 1 => do
    skipSpace
    let c ← peek
    let text := (← get).rest
    let side := combined left (CharSet.ofList done.reverse)
    if c = ']' then
      skip
      return side
    else if let some (set, after) := named? text then
      modify fun r => { r with rest := after }
      readMembers left (set :: done) fuel
    else if c = '[' then
      let set ← readBrackets fuel
      readMembers left (set :: done) fuel
    else if let some operation := operationAt? text then
      skip 2
      readMembers (some (side, operation)) [] fuel
    else
      let set ← readRange
      readMembers left (set :: done) fuel

end

/-! ## Groups -/

/-- The switch with this letter. -/
def switch? : Char → Option Switch
  | 'i' => some .ignoreCase
  | 'm' => some .multiLine
  | 's' => some .dotAll
  | 'U' => some .swapGreed
  | 'u' => some .unicode
  | 'R' => some .crlf
  | 'x' => some .verbose
  | _ => none

/-- The switches that letters name, none of them twice; those behind a hyphen are turned off. -/
def switches? (isOn : Bool) : List Char → Option Switches
  | [] => some []
  | '-' :: rest => if !isOn || rest.isEmpty then none else switches? false rest
  | c :: rest => do
    let switch ← switch? c
    let others ← switches? isOn rest
    if (others.find? switch).isSome then none else some ((switch, isOn) :: others)

/-- May the character stand in the name of a group? -/
def isNameChar (isFirst : Bool) (c : Char) : Bool :=
  if isFirst then c == '_' || Alphanumeric.isAlphabetic c
  else ['_', '.', '[', ']'].contains c || Alphanumeric.isAlphanumeric c

/-- Reads the name of a group up to the bracket behind it.  No two groups have the same name. -/
def readName : Read Unit := do
  let r ← get
  let name := r.rest.takeWhile (· != '>')
  let isName :=
    match name with
    | [] => false
    | c :: rest => isNameChar true c && rest.all (isNameChar false)
  if !isName || r.names.contains name || name.length = r.rest.length then failure
  else set { r with rest := r.rest.drop (name.length + 1), names := name :: r.names }

/-- What stands behind the opening parenthesis of a group. -/
inductive Head
  /-- Switches without a group. -/
  | switches (switches : Switches)
  /-- The switches of a group. -/
  | group (switches : Switches)

/-- Reads what stands behind an opening parenthesis. -/
def readHead : Read Head := do
  skipSpace
  let text := (← get).rest
  if ["?=", "?!", "?<=", "?<!"].any fun look => look.toList.isPrefixOf text then failure
  else if (← skipText "?P<") || (← skipText "?<") then
    readName
    return .group []
  else if ← skipText "?" then
    let letters := (← get).rest.takeWhile fun c => c != ':' && c != ')'
    skip letters.length
    let isGroup := (← peek) = ':'
    skip
    match switches? true letters with
    | some switches =>
      if isGroup then return .group switches
      else if switches.isEmpty then failure
      else return .switches switches
    | none => failure
  else return .group []

/-- Sets whether white space and comments may stand between the parts. -/
def setVerbose (verbose : Bool) : Read Unit :=
  modify fun r => { r with verbose }

mutual

/-- Reads the choices up to the end of a group or of the text: those before and the parts of the
present one so far are given in reverse. -/
def readChoices (before done : List Pattern) : (fuel : Nat) → Read Pattern
  | 0 => failure
  | fuel + 1 => do
    skipSpace
    match (← get).rest with
    | [] => return ofChoices (ofParts done.reverse :: before).reverse
    | c :: _ =>
      if c = ')' then return ofChoices (ofParts done.reverse :: before).reverse
      else if c = '|' then
        skip
        readChoices (ofParts done.reverse :: before) [] fuel
      else if c = '(' then
        skip
        let part ← readGroup fuel
        readChoices before (part :: done) fuel
      else if c = '[' then
        let set ← readBrackets fuel
        readChoices before (.chars set :: done) fuel
      else if c = '{' then failure
      else if ['?', '*', '+'].contains c then
        match done with
        | [] => failure
        | .turn _ :: _ => failure
        | part :: done => do
          skip
          discard <| skipText "?"
          readChoices before (.repeated part :: done) fuel
      else
        let atom ← readAtom
        readChoices before (.single atom :: done) fuel

/-- Reads a group, or switches, behind the opening parenthesis. -/
def readGroup : (fuel : Nat) → Read Pattern
  | 0 => failure
  | fuel + 1 => do
    let verbose := (← get).verbose
    match ← readHead with
    | .switches switches => do
      setVerbose ((switches.find? .verbose).getD verbose)
      return .turn switches
    | .group switches => do
      setVerbose ((switches.find? .verbose).getD verbose)
      let part ← readChoices [] [] fuel
      discard peek
      skip
      setVerbose verbose
      return .group switches part

end

/-- The pattern that a text spells. -/
def ofText? (text : List Char) : Option Pattern := do
  let (pattern, reader) ← (readChoices [] [] (2 * text.length + 2)).run { rest := text }
  if reader.rest.isEmpty then some pattern else none

end PluginKit.Pattern
