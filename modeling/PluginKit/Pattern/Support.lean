import PluginKit.Pattern.Parser

/-!
# Patterns that can be matched

Patterns are matched without tables of Unicode characters, and only against texts in UTF-8.  So what
needs a table is refused: properties, the shorthands and the case of letters, except where they are
confined to ASCII, and so is whatever could match a part of a character.  Edges of words are refused
for a reason of their own.
-/

namespace PluginKit.Pattern

/-- Why a pattern cannot be matched. -/
inductive Fault
  /-- It is no pattern, or one that needs a table. -/
  | form
  /-- It asks for edges of words beyond ASCII. -/
  | wordEdge
  deriving DecidableEq, Repr

/-- The problem in words. -/
def Fault.message : Fault → String
  | .form => "error building NFA"
  | .wordEdge =>
    "unsupported regex feature for DFAs: cannot build DFAs for regexes with Unicode word " ++
      "boundaries; switch to ASCII word boundaries, or heuristically enable Unicode word " ++
      "boundaries or use a different regex engine"

/-- The greatest number of levels of a pattern. -/
def maxLevels : Nat :=
  250

/-! ## Sets -/

namespace CharSet

mutual

/-- Does the set need no table? -/
def isTableFree : CharSet → Bool
  | .nothing => true
  | .range _ _ => true
  | .named _ => true
  | .shorthand _ => false
  | .property => false
  | .union sets => areTableFree sets
  | .combination _ left right => isTableFree left && isTableFree right
  | .brackets _ set => isTableFree set

/-- Do the sets need no table? -/
def areTableFree : List CharSet → Bool
  | [] => true
  | set :: rest => isTableFree set && areTableFree rest

end

mutual

/-- Does the set name no characters at all? -/
def isBare : CharSet → Bool
  | .nothing => true
  | .range _ _ => false
  | .named _ => false
  | .shorthand _ => false
  | .property => false
  | .union sets => areBare sets
  | .combination _ left right => isBare left && isBare right
  | .brackets _ set => isBare set

/-- Do the sets name no characters at all? -/
def areBare : List CharSet → Bool
  | [] => true
  | set :: rest => isBare set && areBare rest

end

mutual

/-- Does the set, as one of bytes, have only parts within ASCII?  A complement is not within it. -/
def isAscii : CharSet → Bool
  | .nothing => true
  | .range _ last => last ≤ '\x7f'
  | .named negated => !negated
  | .shorthand negated => !negated
  | .property => false
  | .union sets => areAscii sets
  | .combination _ left right => isAscii left && isAscii right
  | .brackets negated set => !negated && isAscii set

/-- Do the sets, as ones of bytes, have only parts within ASCII? -/
def areAscii : List CharSet → Bool
  | [] => true
  | set :: rest => isAscii set && areAscii rest

end

end CharSet

/-! ## Patterns -/

/-- The switches that decide what is supported, and whether an edge of a word beyond ASCII has been
met. -/
structure Mode where
  unicode : Bool := true
  ignoreCase : Bool := false
  hasWordEdge : Bool := false

namespace Mode

/-- The mode behind switches. -/
def switched (m : Mode) (switches : Switches) : Mode :=
  { m with
    unicode := (switches.find? .unicode).getD m.unicode
    ignoreCase := (switches.find? .ignoreCase).getD m.ignoreCase }

/-- The mode behind an atom, if that is supported. -/
def afterAtom? (m : Mode) : Atom → Option Mode
  | .char c isByte =>
    if if m.unicode then m.ignoreCase else isByte && '\x7f' < c then none else some m
  | .any => if m.unicode then some m else none
  | .edge => some m
  | .wordEdge => some { m with hasWordEdge := m.hasWordEdge || m.unicode }
  | .shorthand negated => if m.unicode || negated then none else some m
  | .property => none

/-- Is a set supported? -/
def supports (m : Mode) (set : CharSet) : Bool :=
  if !m.unicode then set.isAscii
  else if m.ignoreCase then set.isBare
  else set.isTableFree

end Mode

mutual

/-- The mode behind a pattern, if that is supported.  The switches of a group end with it. -/
def after? (m : Mode) : Pattern → Option Mode
  | .empty => some m
  | .single atom => m.afterAtom? atom
  | .chars set => if m.supports set then some m else none
  | .turn switches => some (m.switched switches)
  | .repeated part => after? m part
  | .group switches part => do
    let inner ← after? (m.switched switches) part
    return { m with hasWordEdge := inner.hasWordEdge }
  | .sequence parts => afterAll? m parts
  | .choice parts => afterAll? m parts

/-- The mode behind some patterns, if they are supported. -/
def afterAll? (m : Mode) : List Pattern → Option Mode
  | [] => some m
  | part :: rest => do afterAll? (← after? m part) rest

end

/-- Refuses a text that is no pattern or one that cannot be matched. -/
def check (text : List Char) : Except Fault Unit :=
  match (ofText? text).filter (·.levels ≤ maxLevels) with
  | none => .error .form
  | some pattern =>
    match pattern.after? {} with
    | none => .error .form
    | some mode => if mode.hasWordEdge then .error .wordEdge else .ok ()

end PluginKit.Pattern
