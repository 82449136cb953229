import PluginKit.Data.Document
import PluginKit.Yaml.Token

/-!
# Nodes of YAML texts

A YAML text holds one document, whose nodes are scalars, lists and tables.  `Node.ofText?` reads it;
a text without any content gives an empty scalar, and a text with a second document is refused.

An anchor gives its node a number: as many as there are names of anchors before it.  So a name that
comes again takes a new number, which the next new name takes too.  An alias knows the number that
its name has at its place, and stands for the last node of the document with that number.  It is
followed only where something is read from it (`Part`), so that a node may hold an alias to itself.
-/

namespace PluginKit.Yaml

/-- A node of a document. -/
inductive Node
  /-- A scalar, with the name of its tag if it has one. -/
  | scalar (form : Form) (tag : Option (List UInt8)) (text : List Char)
  | list (items : List Node)
  | table (entries : List (Node × Node))
  /-- A node to which an anchor gives a number. -/
  | anchored (number : Nat) (node : Node)
  /-- A place that stands for a node with this number. -/
  | alias (number : Nat)
  deriving Inhabited

namespace Node

/-- The node of a place where nothing is written. -/
def empty : Node :=
  .scalar .plain none []

/-- What is known while nodes are read: the tokens that follow, the numbers of the anchors so far,
latest first, and the handles that tags may have. -/
structure Reader where
  tokens : List Token
  numbers : List (List Char × Nat) := []
  handles : Tag.Handles := Tag.usual

/-- Reading a part of a document, which may fail. -/
abbrev Read := StateT Reader Option

namespace Read

/-- The next token, which stays. -/
def peek : Read (Option Token) :=
  return (← get).tokens.head?

/-- Moves on by one token. -/
def skip : Read Unit :=
  modify fun r => { r with tokens := r.tokens.drop 1 }

/-- Moves on over a token that must come next. -/
def expect (token : Token) : Read Unit := do
  if (← peek) = some token then skip else failure

/-- Gives a number to the anchor with this name. -/
def number (name : List Char) : Read Nat := do
  let numbers := (← get).numbers
  let others := numbers.filter (·.1 != name)
  modify fun r => { r with numbers := (name, numbers.length) :: others }
  return numbers.length

/-- The number that this name of an anchor has here. -/
def numberOf (name : List Char) : Read Nat := do
  match (← get).numbers.find? (·.1 == name) with
  | some (_, number) => return number
  | none => failure

/-- The name of a tag, whose handle must be declared. -/
def tagName (tag : Tag) : Read (List UInt8) := do
  match tag.name? (← get).handles with
  | some name => return name
  | none => failure

/-- The properties before a node: the name of its anchor and that of its tag. -/
def properties : Read (Option (List Char) × Option (List UInt8)) := do
  match ← peek with
  | some (.anchor anchor) => do
    skip
    if let some (.tag tag) ← peek then
      skip
      return (some anchor, some (← tagName tag))
    return (some anchor, none)
  | some (.tag tag) => do
    skip
    if let some (.anchor anchor) ← peek then
      skip
      return (some anchor, some (← tagName tag))
    return (none, some (← tagName tag))
  | _ => return (none, none)

end Read

open Read

/-- Where a node stands. -/
inductive Place
  /-- Inside brackets. -/
  | flow
  /-- An item or a document. -/
  | block
  /-- A key or a value, where a list need not be indented. -/
  | entry
  deriving DecidableEq

/-- Does the next part of a table in block style begin here, so that nothing is written in this
place? -/
def endsEntry (token : Option Token) : Bool :=
  [some .key, some .value, some .blockEnd].contains token

/-- Does this token end a part of a collection in brackets? -/
def endsFlow (close : Token) (token : Option Token) : Bool :=
  token == some .flowEntry || token == some close

mutual

/-- Reads a node with its properties. -/
def read (place : Place) : (fuel : Nat) → Read Node
  | 0 => failure
  | fuel + 1 => do
    if let some (.alias name) ← peek then
      skip
      return .alias (← numberOf name)
    let (anchor, tag) ← properties
    match anchor with
    | none => readContent place tag false fuel
    | some name => do
      let number ← number name
      return .anchored number (← readContent place tag true fuel)

/-- Reads a node after its properties: the name of its tag, and whether it has an anchor. -/
def readContent (place : Place) (tag : Option (List UInt8)) (hasAnchor : Bool) :
    (fuel : Nat) → Read Node
  | 0 => failure
  | fuel + 1 => do
    match ← peek, place with
    | some .blockEntry, .entry => return .list (← readLooseItems fuel)
    | some (.scalar form text), _ => do
      skip
      return .scalar form tag text
    | some .flowSequence, _ => do
      skip
      return .list (← readFlowItems true fuel)
    | some .flowMapping, _ => do
      skip
      return .table (← readFlowEntries true fuel)
    | some .blockSequence, .block => do
      skip
      return .list (← readItems fuel)
    | some .blockSequence, .entry => do
      skip
      return .list (← readItems fuel)
    | some .blockMapping, .block => do
      skip
      return .table (← readEntries fuel)
    | some .blockMapping, .entry => do
      skip
      return .table (← readEntries fuel)
    | _, _ => if hasAnchor || tag.isSome then return .scalar .plain tag [] else failure

/-- Reads the items of an indented list in block style, up to its end. -/
def readItems : (fuel : Nat) → Read (List Node)
  | 0 => failure
  | fuel + 1 => do
    match ← peek with
    | some .blockEntry => do
      skip
      let next ← peek
      let item ←
        if next == some .blockEntry || next == some .blockEnd then pure empty
        else read .block fuel
      return item :: (← readItems fuel)
    | some .blockEnd => do
      skip
      return []
    | _ => failure

/-- Reads the items of a list that is not indented under its key. -/
def readLooseItems : (fuel : Nat) → Read (List Node)
  | 0 => failure
  | fuel + 1 => do
    match ← peek with
    | some .blockEntry => do
      skip
      let next ← peek
      let item ←
        if next == some .blockEntry || endsEntry next then pure empty else read .block fuel
      return item :: (← readLooseItems fuel)
    | _ => return []

/-- Reads the entries of a table in block style, up to its end. -/
def readEntries : (fuel : Nat) → Read (List (Node × Node))
  | 0 => failure
  | fuel + 1 => do
    match ← peek with
    | some .key => do
      skip
      let key ← if endsEntry (← peek) then pure empty else read .entry fuel
      let value ← readValue fuel
      return (key, value) :: (← readEntries fuel)
    | some .blockEnd => do
      skip
      return []
    | _ => failure

/-- Reads the value of an entry in block style. -/
def readValue : (fuel : Nat) → Read Node
  | 0 => failure
  | fuel + 1 => do
    match ← peek with
    | some .value => do
      skip
      if endsEntry (← peek) then return empty else read .entry fuel
    | _ => return empty

/-- Reads the items of a list in brackets, up to its end.  A question mark begins a table of one
entry; where nothing is written for its key, one token is passed over with it. -/
def readFlowItems (isFirst : Bool) : (fuel : Nat) → Read (List Node)
  | 0 => failure
  | fuel + 1 => do
    if (← peek) == some .flowSequenceEnd then
      skip
      return []
    if !isFirst then expect .flowEntry
    match ← peek with
    | some .flowSequenceEnd => do
      skip
      return []
    | some .key => do
      skip
      let key ←
        if (← peek) == some .value || endsFlow .flowSequenceEnd (← peek) then do
          skip
          pure empty
        else read .flow fuel
      let value ← readFlowValue .flowSequenceEnd fuel
      return .table [(key, value)] :: (← readFlowItems false fuel)
    | _ => do
      let item ← read .flow fuel
      return item :: (← readFlowItems false fuel)

/-- Reads the entries of a table in brackets, up to its end. -/
def readFlowEntries (isFirst : Bool) : (fuel : Nat) → Read (List (Node × Node))
  | 0 => failure
  | fuel + 1 => do
    if (← peek) == some .flowMappingEnd then
      skip
      return []
    if !isFirst then expect .flowEntry
    match ← peek with
    | some .flowMappingEnd => do
      skip
      return []
    | some .key => do
      skip
      let key ←
        if (← peek) == some .value || endsFlow .flowMappingEnd (← peek) then pure empty
        else read .flow fuel
      let value ← readFlowValue .flowMappingEnd fuel
      return (key, value) :: (← readFlowEntries false fuel)
    | _ => do
      let key ← read .flow fuel
      return (key, empty) :: (← readFlowEntries false fuel)

/-- Reads the value of an entry in brackets. -/
def readFlowValue (close : Token) : (fuel : Nat) → Read Node
  | 0 => failure
  | fuel + 1 => do
    match ← peek with
    | some .value => do
      skip
      if endsFlow close (← peek) then return empty else read .flow fuel
    | _ => return empty

end

/-- Reads the directives before a document.  There is at most one about the version, and one for
each handle of tags. -/
def readDirectives (hasVersion : Bool) (declared : Tag.Handles) :
    List Token → Option (List Token × Tag.Handles)
  | .versionDirective :: rest => if hasVersion then none else readDirectives true declared rest
  | .handleDirective handle start :: rest =>
    if declared.any (·.1 == handle) then none
    else readDirectives hasVersion ((handle, start) :: declared) rest
  | tokens => some (tokens, declared)

/-- Is this token one that cannot belong to the content of a document? -/
def endsDocument : Option Token → Bool
  | none => true
  | some (.handleDirective _ _) => true
  | some token => [.versionDirective, .documentStart, .documentEnd].contains token

/-- Reads the content of a document. -/
def readDocument (isExplicit : Bool) : Read Node := do
  if isExplicit && endsDocument (← peek) then return empty
  read .block (4 * (← get).tokens.length + 8)

/-- The only document of a list of tokens. -/
def ofTokens? (tokens : List Token) : Option Node := do
  let (rest, declared) ← readDirectives false [] tokens
  let isExplicit := rest.head? == some .documentStart
  if rest.isEmpty && tokens.isEmpty then return empty
  if rest.length < tokens.length && !isExplicit then none
  else
    let reader : Reader := { tokens := if isExplicit then rest.drop 1 else rest }
    let reader := { reader with handles := declared ++ reader.handles }
    let (node, reader) ← (readDocument isExplicit).run reader
    -- after the content only markers of the document's end may follow
    if reader.tokens.all (· == .documentEnd) then some node else none

/-- The document of a text. -/
def ofText? (text : List Char) : Option Node :=
  (Token.ofText? text).bind ofTokens?

mutual

/-- The nodes with anchors in a node and their numbers, in the order of the text. -/
def anchors : Node → List (Nat × Node)
  | .scalar _ _ _ => []
  | .list items => anchorsOfItems items
  | .table entries => anchorsOfEntries entries
  | .anchored number node => (number, node) :: anchors node
  | .alias _ => []

/-- The nodes with anchors in the items of a list. -/
def anchorsOfItems : List Node → List (Nat × Node)
  | [] => []
  | item :: rest => anchors item ++ anchorsOfItems rest

/-- The nodes with anchors in the entries of a table. -/
def anchorsOfEntries : List (Node × Node) → List (Nat × Node)
  | [] => []
  | (key, value) :: rest => anchors key ++ anchors value ++ anchorsOfEntries rest

end

end Node

/-- A part of a document: a node, with the nodes of the whole document that have anchors. -/
structure Part where
  /-- The numbers and nodes, the last in the text first. -/
  anchors : List (Nat × Node)
  node : Node

namespace Part

/-- The whole of a document. -/
def ofNode (node : Node) : Part where
  anchors := node.anchors.reverse
  node := node

/-- The document of a text. -/
def ofText? (text : List Char) : Option Part :=
  (Node.ofText? text).map ofNode

/-- Another node of the same document. -/
def withNode (p : Part) (node : Node) : Part :=
  { p with node }

/-- The node itself: without its anchor, and for an alias the node that it stands for. -/
def content (p : Part) : Node :=
  match p.node with
  | .anchored _ node => node
  | .alias number => ((p.anchors.find? (·.1 == number)).map (·.2)).getD p.node
  | node => node

/-- Is a scalar taken for a truth value or a number?  It is written plain for that, or as a literal
block with the tag that says so. -/
def isTyped (kind : List UInt8) (form : Form) (tag : Option (List UInt8)) : Bool :=
  form == .plain || (form == .literal && tag == some kind)

/-- The text of a scalar. -/
def text? (p : Part) : Option String :=
  match p.content with
  | .scalar _ _ text => some (String.ofList text)
  | _ => none

/-- The truth value that a scalar spells. -/
def bool? (p : Part) : Option Bool :=
  match p.content with
  | .scalar form tag text => if isTyped Tag.bool form tag then Plain.bool? text else none
  | _ => none

/-- The number of 32 bits that a scalar spells. -/
def code? (p : Part) : Option UInt32 :=
  match p.content with
  | .scalar form tag text =>
    match if isTyped Tag.int form tag then Plain.nat? text else none with
    | some n => if n < UInt32.size then some n.toUInt32 else none
    | none => none
  | _ => none

/-- The entries of a table.  Where nothing is written, the table is empty. -/
def entries? (p : Part) : Option (List (Document.Key × Part)) :=
  match p.content with
  | .table entries =>
    some (entries.map fun (key, value) =>
      (⟨(p.withNode key).text?, (p.withNode key).code?⟩, p.withNode value))
  | .scalar .plain _ [] => some []
  | _ => none

instance : Document Part where
  entries? := entries?
  fieldList? _ := none
  text? := text?
  bool? := bool?

end Part

end PluginKit.Yaml
