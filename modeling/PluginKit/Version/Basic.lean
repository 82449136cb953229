import PluginKit.Text.Numeral

/-!
# Versions

A version has two components if its major number is 0 and three otherwise, and may carry a tag.
This is its form after reading: `Version.parse` and `Version.ofParts` fill or drop components so
that their count is `Version.arity` of the first, and a tag is never empty and never has a space or
a hyphen in it.

A version is written as its components with points between them, then a hyphen and the tag.
-/

namespace PluginKit

/-- A version number: its components from the major number on, and its tag if it has one. -/
structure Version where
  components : List Nat
  tag : Option String
  deriving DecidableEq, Repr, Inhabited

namespace Version

/-- What is wrong with a text that is no version. -/
inductive Fault
  /-- Nothing stands before the tag. -/
  | noNumber
  /-- The tag is empty or has a character that no tag may have. -/
  | badTag (tag : String)
  /-- A component is no numeral, or too large. -/
  | badComponent (piece : String)
  /-- There are more components than the major number admits. -/
  | tooManyComponents (found allowed : Nat)
  deriving DecidableEq, Repr

/-- A refused text with the reason. -/
structure Error where
  input : String
  fault : Fault
  deriving DecidableEq, Repr

/-- The reason in words. -/
def Error.message (e : Error) : String :=
  match e.fault with
  | .noNumber => s!"no version number in '{e.input}'"
  | .badTag tag => s!"invalid tag '{tag}' in '{e.input}'"
  | .badComponent piece => s!"invalid version component '{piece}' in '{e.input}'"
  | .tooManyComponents found allowed =>
    s!"'{e.input}' has {found} components, at most {allowed} allowed"

/-- How many components a version with this major number has. -/
def arity (major : Nat) : Nat :=
  if major = 0 then 2 else 3

/-- Every component is less than this. -/
def limit : Nat :=
  UInt64.size

/-! ## Parts -/

/-- The first component. -/
def major (v : Version) : Nat :=
  v.components.getD 0 0

/-- The second component. -/
def minor (v : Version) : Nat :=
  v.components.getD 1 0

/-- The third component, 0 for a version that has none. -/
def patch (v : Version) : Nat :=
  v.components.getD 2 0

/-- Does the version carry a tag? -/
def isTagged (v : Version) : Bool :=
  v.tag.isSome

/-- The untagged version with these parts; a patch level is dropped where the major number is 0. -/
def ofParts (major minor patch : UInt64) : Version where
  components := [major.toNat, minor.toNat, patch.toNat].take (arity major.toNat)
  tag := none

/-! ## Text -/

/-- The components with points between them. -/
def bodyText (v : Version) : List Char :=
  ['.'].intercalate (v.components.map Numeral.write)

/-- The version as text, as a list of characters. -/
def toChars (v : Version) : List Char :=
  match v.tag with
  | none => v.bodyText
  | some tag => v.bodyText ++ '-' :: tag.toList

/-- The version as text. -/
def render (v : Version) : String :=
  String.ofList v.toChars

instance : ToString Version := ⟨render⟩

/-- May a text stand as a tag after the hyphen?  It is not empty and has neither a space nor a
hyphen in it. -/
def isTag (tag : List Char) : Bool :=
  !tag.isEmpty && !tag.contains ' ' && !tag.contains '-'

/-- The version with this tag in the place of its own. -/
def withTag (v : Version) (tag : String) : Except Error Version :=
  if isTag tag.toList then .ok { v with tag := some tag }
  else .error ⟨v.render ++ "-" ++ tag, .badTag tag⟩

/-- The versions that `parse`, `ofParts` and `withTag` give. -/
structure Normal (v : Version) : Prop where
  length_components : v.components.length = arity v.major
  lt_limit : ∀ c ∈ v.components, c < limit
  isTag_of_mem : ∀ tag ∈ v.tag, isTag tag.toList = true

end Version

end PluginKit
