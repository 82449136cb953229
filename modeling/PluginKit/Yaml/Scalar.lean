import PluginKit.Yaml.Cursor
import PluginKit.Yaml.Plain

/-!
# Scalars of YAML texts

The four forms of a scalar that go over several lines: plain, in single or double quotes, and as a
block.  In the first three a line break counts as a space and the blank lines after it as line
breaks; a block keeps its line breaks (literal) or joins its lines likewise (folded).

Each reader takes fuel, which bounds the characters it may pass, and gives the text of the scalar
with the place after it.
-/

namespace PluginKit.Yaml.Scalar

/-! ## Blanks inside a scalar -/

/-- The blanks and line breaks between two words of a scalar. -/
structure Gap where
  /-- The blanks before the first line break. -/
  blanks : List Char := []
  /-- The first line break, once there is one; empty for a break that is escaped. -/
  first : Option (List Char) := none
  /-- The further line breaks. -/
  more : List Char := []

/-- What the gap contributes to the text. -/
def Gap.text (g : Gap) : List Char :=
  match g.first with
  | none => g.blanks
  | some ['\n'] => if g.more.isEmpty then [' '] else g.more
  | some first => first ++ g.more

/-- Reads blanks and line breaks.  With a least column for what follows, a tab before that column at
the beginning of a line is refused. -/
def takeGap? (least : Option Nat) : (fuel : Nat) → Gap → Cursor → Option (Gap × Cursor)
  | 0, _, _ => none
  | fuel + 1, gap, c =>
    match c.rest with
    | [] => some (gap, c)
    | char :: _ =>
      if isBlank char then
        if gap.first.isNone then
          takeGap? least fuel { gap with blanks := gap.blanks ++ [char] } c.skip
        else if char == '\t' && least.any (c.column < ·) then none
        else takeGap? least fuel gap c.skip
      else if isBreak char then
        let (text, after) := c.takeBreak
        match gap.first with
        | none => takeGap? least fuel { blanks := [], first := some text } after
        | some _ => takeGap? least fuel { gap with more := gap.more ++ text } after
      else some (gap, c)

/-! ## Plain -/

/-- May a colon not stand before this character inside brackets? -/
def isFlowMark (c : Char) : Bool :=
  [',', '?', '[', ']', '{', '}'].contains c

/-- The characters of a word.  A colon before a gap ends it, and inside brackets also a comma or a
bracket; a colon right before one of those is refused there. -/
def takeWord? (inFlow : Bool) : List Char → Option (List Char)
  | [] => some []
  | c :: rest =>
    if isBlank c || isBreak c then some []
    else if c == ':' && atGap rest then some []
    else if inFlow && c == ':' && rest.head?.any isFlowMark then none
    else if inFlow && [',', '[', ']', '{', '}'].contains c then some []
    else (takeWord? inFlow rest).map (c :: ·)

/-- Reads a plain scalar, the text so far given in reverse.  `least` is the least column of a
further line outside of brackets.  Also says whether a line break was passed at the end. -/
def plain? (inFlow : Bool) (least : Nat) :
    (fuel : Nat) → (done : List Char) → Gap → Cursor → Option (List Char × Bool × Cursor)
  | 0, _, _, _ => none
  | fuel + 1, done, gap, c =>
    let stop := some (done.reverse, gap.first.isSome, c)
    if c.atDocumentMarker || c.at? '#' then stop
    else do
      let word ← takeWord? inFlow c.rest
      if word.isEmpty then stop
      else
        let done := word.reverse ++ (gap.text.reverse ++ done)
        let c := c.skip word.length
        let (gap, after) ← takeGap? (some least) fuel {} c
        if after.position = c.position then some (done.reverse, false, after)
        else if !inFlow && after.column < least then some (done.reverse, gap.first.isSome, after)
        else plain? inFlow least fuel done gap after

/-! ## Quoted -/

/-- The character of an escape with one letter. -/
def escape? : Char → Option Char
  | '0' => some '\x00'
  | 'a' => some '\x07'
  | 'b' => some '\x08'
  | 't' => some '\t'
  | '\t' => some '\t'
  | 'n' => some '\n'
  | 'v' => some '\x0b'
  | 'f' => some '\x0c'
  | 'r' => some '\r'
  | 'e' => some '\x1b'
  | ' ' => some ' '
  | '"' => some '"'
  | '/' => some '/'
  | '\\' => some '\\'
  | 'N' => some '\u0085'
  | '_' => some '\u00a0'
  | 'L' => some '\u2028'
  | 'P' => some '\u2029'
  | _ => none

/-- How many hexadecimal digits follow the letter of an escape. -/
def escapeWidth? : Char → Option Nat
  | 'x' => some 2
  | 'u' => some 4
  | 'U' => some 8
  | _ => none

/-- The character that an escape stands for, after its backslash, and its length. -/
def unescape? : List Char → Option (Char × Nat)
  | [] => none
  | letter :: rest =>
    match escapeWidth? letter with
    | none => (escape? letter).map fun c => (c, 1)
    | some width =>
      if rest.length < width then none
      else
        match Numeral.inBase? 16 (rest.take width) with
        | some code => if code.isValidChar then some (Char.ofNat code, width + 1) else none
        | none => none

/-- A run of characters inside quotes up to a gap, the closing quote, or a line break that is
escaped, which it then says. -/
def quotedWord? (single : Bool) :
    (fuel : Nat) → (done : List Char) → Cursor → Option (List Char × Bool × Cursor)
  | 0, _, _ => none
  | fuel + 1, done, c =>
    match c.rest with
    | [] => none
    | char :: rest =>
      if isBlank char || isBreak char then some (done, false, c)
      else if single && char == '\'' then
        if rest.head? == some '\'' then quotedWord? single fuel ('\'' :: done) (c.skip 2)
        else some (done, false, c)
      else if !single && char == '"' then some (done, false, c)
      else if !single && char == '\\' then
        if rest.head?.any isBreak then some (done, true, (c.skip).takeBreak.2)
        else do
          let (char, length) ← unescape? rest
          quotedWord? single fuel (char :: done) (c.skip (length + 1))
      else quotedWord? single fuel (char :: done) c.skip

/-- Reads a scalar after its opening quote, the text so far given in reverse. -/
def quoted? (single : Bool) :
    (fuel : Nat) → (done : List Char) → Cursor → Option (List Char × Cursor)
  | 0, _, _ => none
  | fuel + 1, done, c =>
    if c.atDocumentMarker then none
    else do
      let (done, escapedBreak, c) ← quotedWord? single fuel done c
      if c.at? (if single then '\'' else '"') then some (done.reverse, c.skip)
      else
        let gap : Gap := if escapedBreak then { first := some [] } else {}
        let (gap, c) ← takeGap? none fuel gap c
        if c.rest.isEmpty then none
        else quoted? single fuel (gap.text.reverse ++ done) c

/-! ## Block -/

/-- What becomes of the line breaks at the end of a block. -/
inductive Chomping
  /-- They are dropped. -/
  | strip
  /-- The first of them stays. -/
  | clip
  /-- All of them stay. -/
  | keep
  deriving DecidableEq, Repr

/-- The chomping that a sign asks for. -/
def chomping? : Char → Option Chomping
  | '+' => some .keep
  | '-' => some .strip
  | _ => none

/-- The chomping at the head of a text, if it is given. -/
def takeChomping (c : Cursor) : Option Chomping × Cursor :=
  match c.rest.head?.bind chomping? with
  | some chomping => (some chomping, c.skip)
  | none => (none, c)

/-- The width at the head of a text, if it is given.  It may not be zero. -/
def takeWidth? (c : Cursor) : Option (Option Nat × Cursor) :=
  match c.rest with
  | char :: _ =>
    if char == '0' then none
    else if char.isDigit then some (some (char.toNat - '0'.toNat), c.skip)
    else some (none, c)
  | [] => some (none, c)

/-- Chomping and width of a block, in either order. -/
def takeHeader? (c : Cursor) : Option (Chomping × Option Nat × Cursor) := do
  match takeChomping c with
  | (some chomping, c) =>
    let (width, c) ← takeWidth? c
    return (chomping, width, c)
  | (none, c) =>
    let (width, c) ← takeWidth? c
    if width.isSome then
      let (chomping, c) := takeChomping c
      return (chomping.getD .clip, width, c)
    else return (.clip, none, c)

/-- Reads indentation and empty lines.  Without a column for the block, `widest` is the greatest
column so far; the line breaks so far are given.  Gives the line breaks, the greatest column and the
place. -/
def takeBreaks? (column : Option Nat) :
    (fuel : Nat) → (widest : Nat) → (breaks : List Char) → Cursor →
      Option (List Char × Nat × Cursor)
  | 0, _, _, _ => none
  | fuel + 1, widest, breaks, c =>
    let spaces := c.rest.takeWhile (· == ' ')
    let c := c.skip (min spaces.length ((column.map (· - c.column)).getD spaces.length))
    let widest := max widest c.column
    if c.at? '\t' && column.all (c.column < ·) then none
    else if c.rest.head?.any isBreak then
      let (text, c) := c.takeBreak
      takeBreaks? column fuel widest (breaks ++ text) c
    else some (breaks, widest, c)

/-- The lines of a block so far. -/
structure Lines where
  /-- The text, in reverse. -/
  done : List Char := []
  /-- The line break after the last line. -/
  last : List Char := []
  /-- The line breaks of the empty lines after it. -/
  more : List Char := []
  /-- Did the last line begin with a blank? -/
  blank : Bool := false

/-- What stands between the lines so far and the next one. -/
def Lines.join (l : Lines) (literal nextBlank : Bool) : List Char :=
  if !literal && l.last == ['\n'] && !l.blank && !nextBlank then
    if l.more.isEmpty then [' '] else l.more
  else l.last ++ l.more

/-- Reads the lines of a block at a column. -/
def takeLines? (literal : Bool) (column : Nat) :
    (fuel : Nat) → Lines → Cursor → Option (Lines × Cursor)
  | 0, _, _ => none
  | fuel + 1, lines, c =>
    if c.column ≠ column || c.rest.isEmpty then some (lines, c)
    else do
      let blank := c.rest.head?.any isBlank
      let (line, c) := c.takeWhile (!isBreak ·)
      let done := line.reverse ++ ((lines.join literal blank).reverse ++ lines.done)
      let (last, c) := c.takeBreak
      let (more, _, c) ← takeBreaks? (some column) fuel 0 [] c
      takeLines? literal column fuel { done, last, more, blank } c

/-- Reads a block after its sign.  `indent` is the column of the collection around it, if there is
one. -/
def block? (literal : Bool) (indent : Option Nat) (fuel : Nat) (c : Cursor) :
    Option (List Char × Cursor) := do
  let (chomping, width, c) ← takeHeader? c
  let c := c.skipWhile isBlank
  let c := if c.at? '#' then c.skipLine else c
  if !atLineEnd c.rest then none
  else
    let c := c.takeBreak.2
    let given := width.map (indent.getD 0 + ·)
    let (more, widest, c) ← takeBreaks? given fuel 0 [] c
    let least := (indent.map (· + 1)).getD 0
    let column := given.getD (max (max widest least) 1)
    let (lines, c) ← takeLines? literal column fuel { more } c
    let tail :=
      match chomping with
      | .strip => []
      | .clip => lines.last
      | .keep => lines.last ++ lines.more
    return (lines.done.reverse ++ tail, c)

end PluginKit.Yaml.Scalar
