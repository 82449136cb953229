import PluginKit.Text.Cut
import PluginKit.Version.Basic

/-!
# Reading versions

The tag is what follows the last hyphen; the body before it is a list of numerals with points
between them.  A text is refused for the first of these faults:

1. the body is empty,
2. there is a tag, and it is empty or has a space in it,
3. a piece of the body (the leftmost such) is no numeral or not below `Version.limit`,
4. there are more pieces than the major number admits.

Missing components are filled with zeros.
-/

namespace PluginKit.Version

/-- Body and tag of a version text. -/
def cutTag (raw : List Char) : List Char × Option (List Char) :=
  match Cut.last? '-' raw with
  | some (body, tag) => (body, some tag)
  | none => (raw, none)

/-- Refuses an empty body. -/
def checkBody (body : List Char) : Except Fault Unit :=
  if body.isEmpty then .error .noNumber else .ok ()

/-- Refuses a tag that is empty or has a space in it. -/
def checkTag : Option (List Char) → Except Fault Unit
  | none => .ok ()
  | some tag =>
    if tag.isEmpty || tag.contains ' ' then .error (.badTag (String.ofList tag)) else .ok ()

/-- The number that a piece of the body stands for. -/
def readComponent (piece : List Char) : Except Fault Nat :=
  match Numeral.read? piece with
  | some n => if n < limit then .ok n else .error (.badComponent (String.ofList piece))
  | none => .error (.badComponent (String.ofList piece))

/-- Refuses more components than the first one admits. -/
def checkCount (components : List Nat) : Except Fault Unit :=
  let allowed := arity (components.headD 0)
  if allowed < components.length then .error (.tooManyComponents components.length allowed)
  else .ok ()

/-- Fills missing components with zeros. -/
def pad (components : List Nat) : List Nat :=
  components ++ List.replicate (arity (components.headD 0) - components.length) 0

/-- The version that a list of characters stands for. -/
def ofChars (raw : List Char) : Except Fault Version := do
  let (body, tag) := cutTag raw
  checkBody body
  checkTag tag
  let components ← (body.splitOn '.').mapM readComponent
  checkCount components
  return { components := pad components, tag := tag.map String.ofList }

/-- The version that a text stands for. -/
def parse (raw : String) : Except Error Version :=
  (ofChars raw.toList).mapError (Error.mk raw)

end PluginKit.Version
