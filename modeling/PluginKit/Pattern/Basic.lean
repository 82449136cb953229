/-!
# Patterns

A pattern describes texts.  It is made of characters and classes of characters, of edges between
characters, and of groups, repetitions and choices of parts.  Switches change how the parts behind
them are taken, up to the end of the group.
-/

namespace PluginKit

namespace Pattern

/-- A switch on how parts of a pattern are taken. -/
inductive Switch
  /-- Letters of either case are the same. -/
  | ignoreCase
  /-- Edges of lines count as edges of the text. -/
  | multiLine
  /-- The point stands for line breaks too. -/
  | dotAll
  /-- Repetitions are short unless they are marked. -/
  | swapGreed
  /-- Parts stand for characters and not for bytes. -/
  | unicode
  /-- A carriage return is part of a line break. -/
  | crlf
  /-- White space and comments stand between the parts. -/
  | verbose
  deriving DecidableEq, Repr

/-- Switches with their new positions. -/
abbrev Switches :=
  List (Switch × Bool)

/-- The new position of a switch, if there is one. -/
def Switches.find? (switches : Switches) (switch : Switch) : Option Bool :=
  (List.find? (·.1 == switch) switches).map (·.2)

/-- A part that has no parts of its own. -/
inductive Atom
  /-- A character, and whether it is given by the two digits of a byte. -/
  | char (c : Char) (isByte : Bool)
  /-- The point. -/
  | any
  /-- An edge of a line or of the text. -/
  | edge
  /-- An edge of a word, or a place that is none. -/
  | wordEdge
  /-- A letter for digits, white space or the characters of words, or for all others. -/
  | shorthand (negated : Bool)
  /-- A property of characters. -/
  | property
  deriving DecidableEq, Repr

/-- An operation between the two sides of a class. -/
inductive Operation
  | intersection
  | difference
  | symmetricDifference
  deriving DecidableEq, Repr

/-- A set of characters. -/
inductive CharSet
  | nothing
  | range (first last : Char)
  /-- A class with a name. -/
  | named (negated : Bool)
  | shorthand (negated : Bool)
  | property
  | union (sets : List CharSet)
  | combination (operation : Operation) (left right : CharSet)
  /-- A class in brackets. -/
  | brackets (negated : Bool) (set : CharSet)

end Pattern

open Pattern in
/-- A pattern. -/
inductive Pattern
  | empty
  | single (atom : Atom)
  | chars (set : CharSet)
  /-- Switches for the parts behind this place. -/
  | turn (switches : Switches)
  | repeated (part : Pattern)
  /-- A group with switches of its own. -/
  | group (switches : Switches) (part : Pattern)
  | sequence (parts : List Pattern)
  | choice (parts : List Pattern)

namespace Pattern

/-- The union of sets; one alone stays as it is. -/
def CharSet.ofList : List CharSet → CharSet
  | [] => .nothing
  | [set] => set
  | sets => .union sets

/-- The sequence of parts; one alone stays as it is. -/
def ofParts : List Pattern → Pattern
  | [] => .empty
  | [part] => part
  | parts => .sequence parts

/-- The choice between parts; one alone stays as it is. -/
def ofChoices : List Pattern → Pattern
  | [] => .empty
  | [part] => part
  | parts => .choice parts

/-! ## Nesting -/

mutual

/-- How many levels a set has. -/
def CharSet.levels : CharSet → Nat
  | .nothing => 0
  | .range _ _ => 0
  | .named _ => 0
  | .shorthand _ => 0
  | .property => 0
  | .union sets => CharSet.levelsOfAll sets + 1
  | .combination _ left right => max left.levels right.levels + 1
  | .brackets _ set => set.levels + 1

/-- How many levels the deepest of some sets has. -/
def CharSet.levelsOfAll : List CharSet → Nat
  | [] => 0
  | set :: rest => max set.levels (CharSet.levelsOfAll rest)

end

mutual

/-- How many levels a pattern has. -/
def levels : Pattern → Nat
  | .empty => 0
  | .single _ => 0
  | .chars set => set.levels
  | .turn _ => 0
  | .repeated part => levels part + 1
  | .group _ part => levels part + 1
  | .sequence parts => levelsOfAll parts + 1
  | .choice parts => levelsOfAll parts + 1

/-- How many levels the deepest of some patterns has. -/
def levelsOfAll : List Pattern → Nat
  | [] => 0
  | part :: rest => max (levels part) (levelsOfAll rest)

end

end Pattern

end PluginKit
