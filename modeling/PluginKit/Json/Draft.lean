import PluginKit.Json.Token
import PluginKit.Json.Basic

/-!
# Drafts of JSON values

A draft is the tree of a JSON text with its strings and numerals as they are written, and with the
entries of its objects in the order of the text, repeated keys included.  `Draft.ofText?` accepts
the texts of the JSON grammar, however deep they nest.

The value of a draft is asked for afterwards, and refused if

* it nests deeper than `Draft.maxDepth` levels,
* a string has half of a surrogate pair in it,
* a numeral is too large for a binary fraction.
-/

namespace PluginKit.Json

/-- The tree of a JSON text. -/
inductive Draft
  | null
  | bool (value : Bool)
  | num (literal : Literal)
  | str (raw : List Char)
  | arr (items : List Draft)
  | obj (entries : List (List Char × Draft))
  deriving Inhabited

namespace Draft

/-! ## From tokens -/

/-- An array or object that is not closed yet, its parts in reverse. -/
inductive Frame
  | arr (done : List Draft)
  | obj (done : List (List Char × Draft)) (key : List Char)

/-- What may come next in a text. -/
inductive Expect
  /-- A value. -/
  | value
  /-- A value, or the end of the array that was just opened. -/
  | firstItem
  /-- A key, or the end of the object that was just opened. -/
  | firstKey (done : List (List Char × Draft))
  /-- A key. -/
  | key (done : List (List Char × Draft))
  /-- The colon after a key. -/
  | colon (done : List (List Char × Draft)) (key : List Char)
  /-- A comma or a closing bracket after a value. -/
  | after (value : Draft)

/-- The state of reading: the open brackets, inmost first, and what may come next. -/
structure State where
  frames : List Frame
  expect : Expect

/-- A value begins. -/
def beginValue (frames : List Frame) : Token → Option State
  | .null => some ⟨frames, .after .null⟩
  | .bool value => some ⟨frames, .after (.bool value)⟩
  | .num literal => some ⟨frames, .after (.num literal)⟩
  | .str raw => some ⟨frames, .after (.str raw)⟩
  | .openArray => some ⟨.arr [] :: frames, .firstItem⟩
  | .openObject => some ⟨frames, .firstKey []⟩
  | _ => none

/-- A value has ended inside the inmost open bracket. -/
def endValue (value : Draft) : List Frame → Token → Option State
  | .arr done :: frames, .comma => some ⟨.arr (value :: done) :: frames, .value⟩
  | .arr done :: frames, .closeArray => some ⟨frames, .after (.arr (value :: done).reverse)⟩
  | .obj done key :: frames, .comma => some ⟨frames, .key ((key, value) :: done)⟩
  | .obj done key :: frames, .closeObject =>
    some ⟨frames, .after (.obj ((key, value) :: done).reverse)⟩
  | _, _ => none

/-- One token is read. -/
def step (state : State) (token : Token) : Option State :=
  match state.expect, token with
  | .value, token => beginValue state.frames token
  | .firstItem, .closeArray => some ⟨state.frames.drop 1, .after (.arr [])⟩
  | .firstItem, token => beginValue state.frames token
  | .firstKey _, .closeObject => some ⟨state.frames, .after (.obj [])⟩
  | .firstKey done, .str key => some ⟨state.frames, .colon done key⟩
  | .key done, .str key => some ⟨state.frames, .colon done key⟩
  | .colon done key, .colon => some ⟨.obj done key :: state.frames, .value⟩
  | .after value, token => endValue value state.frames token
  | _, _ => none

/-- The draft that all the tokens together spell. -/
def ofTokens? (tokens : List Token) : Option Draft := do
  let state ← tokens.foldlM step ⟨[], .value⟩
  match state with
  | ⟨[], .after value⟩ => some value
  | _ => none

/-- The draft of a text. -/
def ofText? (text : List Char) : Option Draft :=
  (Token.ofText? text).bind ofTokens?

/-! ## Strings -/

/-- The value of a hexadecimal digit. -/
def hexDigit (c : Char) : Nat :=
  if c.isDigit then c.toNat - '0'.toNat
  else if 'a' ≤ c then c.toNat - 'a'.toNat + 10
  else c.toNat - 'A'.toNat + 10

/-- The code unit that four hexadecimal digits give. -/
def codeUnit (a b c d : Char) : Nat :=
  ((hexDigit a * 16 + hexDigit b) * 16 + hexDigit c) * 16 + hexDigit d

/-- Is the code unit the first half of a surrogate pair? -/
def isLead (unit : Nat) : Bool :=
  0xd800 ≤ unit && unit < 0xdc00

/-- Is the code unit the second half of a surrogate pair? -/
def isTrail (unit : Nat) : Bool :=
  0xdc00 ≤ unit && unit < 0xe000

/-- The character that a letter after a backslash stands for. -/
def escaped : Char → Char
  | 'b' => '\x08'
  | 'f' => '\x0c'
  | 'n' => '\n'
  | 'r' => '\r'
  | 't' => '\t'
  | c => c

/-- The characters that a string stands for; none if half of a surrogate pair stands alone. -/
def unescape? : List Char → Option (List Char)
  | [] => some []
  | '\\' :: 'u' :: a :: b :: c :: d :: '\\' :: 'u' :: e :: f :: g :: h :: rest =>
    let lead := codeUnit a b c d
    let trail := codeUnit e f g h
    if isLead lead then
      if isTrail trail then
        (unescape? rest).map
          (Char.ofNat (0x10000 + (lead - 0xd800) * 0x400 + (trail - 0xdc00)) :: ·)
      else none
    else if isTrail lead then none
    else (unescape? ('\\' :: 'u' :: e :: f :: g :: h :: rest)).map (Char.ofNat lead :: ·)
  | '\\' :: 'u' :: a :: b :: c :: d :: rest =>
    let unit := codeUnit a b c d
    if isLead unit || isTrail unit then none
    else (unescape? rest).map (Char.ofNat unit :: ·)
  | '\\' :: c :: rest => (unescape? rest).map (escaped c :: ·)
  | c :: rest => (unescape? rest).map (c :: ·)

/-- The text that a string stands for. -/
def text? (raw : List Char) : Option String :=
  (unescape? raw).map String.ofList

/-! ## Numbers -/

/-- Digits join a significand while it stays below `2 ^ 64`.  Gives the significand and the digits
from the first that does not fit on. -/
def gather (significand : Nat) : List Char → Nat × List Char
  | [] => (significand, [])
  | c :: rest =>
    let longer := significand * 10 + (c.toNat - '0'.toNat)
    if longer < UInt64.size then gather longer rest else (significand, c :: rest)

/-- Powers of ten beyond this bound are not told apart. -/
def maxExponent : Nat :=
  Nat.pow 2 31

/-- The number that a numeral without sign stands for, as a magnitude. -/
def magnitude? (literal : Literal) : Option Nat :=
  let (significand, dropped) := gather 0 literal.whole
  let fraction := literal.fraction.getD []
  let (significand, ignored) := gather significand fraction
  let shift : Int := (dropped.length : Int) - ((fraction.length : Int) - ignored.length)
  match literal.exponent with
  | none => Binary64.scaleDecimal? significand shift
  | some (negative, digits) =>
    let power := Nat.ofDigitChars 10 digits 0
    if maxExponent ≤ power then
      if significand = 0 || negative then some 0 else none
    else if negative then Binary64.scaleDecimal? significand (shift - power)
    else Binary64.scaleDecimal? significand (shift + power)

/-- The integer that a numeral stands for, if it has neither point nor power of ten, fits into 64
bits and is not a negative zero. -/
def int? (literal : Literal) : Option Int :=
  if literal.fraction.isSome || literal.exponent.isSome then none
  else
    let n := Nat.ofDigitChars 10 literal.whole 0
    if literal.negative then if 0 < n ∧ n ≤ Nat.pow 2 63 then some (-n) else none
    else if n < UInt64.size then some n else none

/-- The number that a numeral stands for; none if it is too large. -/
def number? (literal : Literal) : Option Number :=
  match int? literal with
  | some value => some (.int value)
  | none => (magnitude? literal).map fun magnitude => .float ⟨literal.negative, magnitude⟩

/-! ## Values -/

/-- How many levels a value may nest. -/
def maxDepth : Nat :=
  127

mutual

/-- The value of a draft that nests at most `depth` levels. -/
def valueWithin? (depth : Nat) : Draft → Option Json
  | .null => some .null
  | .bool value => some (.bool value)
  | .num literal => (number? literal).map .num
  | .str raw => (text? raw).map .str
  | .arr items => if depth = 0 then none else (itemsWithin? (depth - 1) items).map .arr
  | .obj entries =>
    if depth = 0 then none else (entriesWithin? (depth - 1) entries).map Json.record

/-- The values of items. -/
def itemsWithin? (depth : Nat) : List Draft → Option (List Json)
  | [] => some []
  | item :: rest => do
    let value ← valueWithin? depth item
    let values ← itemsWithin? depth rest
    return value :: values

/-- The values of entries, with their keys. -/
def entriesWithin? (depth : Nat) : List (List Char × Draft) → Option (List (String × Json))
  | [] => some []
  | (raw, item) :: rest => do
    let key ← text? raw
    let value ← valueWithin? depth item
    let values ← entriesWithin? depth rest
    return (key, value) :: values

end

/-- The value of a draft. -/
def value? (draft : Draft) : Option Json :=
  valueWithin? maxDepth draft

end Draft

/-- The value that a JSON text stands for. -/
def parse? (text : String) : Option Json :=
  (Draft.ofText? text.toList).bind Draft.value?

theorem parse?_eq_some {text : String} {value : Json} :
    parse? text = some value ↔
      ∃ draft, Draft.ofText? text.toList = some draft ∧ draft.value? = some value :=
  Option.bind_eq_some_iff

end PluginKit.Json
