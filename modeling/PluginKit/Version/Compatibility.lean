import PluginKit.Version.Basic

/-!
# Compatible versions

A requirement on a tagged version, or on one with major number 0, is met by that version alone, and
so is every requirement by a version that is tagged or has major number 0.  Any other requirement is
met by the versions with the same major number whose minor number and patch level are not older.

`satisfies` decides this and `shortfalls` lists the reasons against.
-/

namespace PluginKit.Version

/-- Does only the required version itself satisfy the requirement? -/
def needsExact (required actual : Version) : Bool :=
  required.isTagged || actual.isTagged || required.major == 0 || actual.major == 0

/-- Does the actual version satisfy a requirement on the other one? -/
def satisfies (actual required : Version) : Bool :=
  if needsExact required actual then required == actual
  else
    required.major == actual.major &&
      (required.minor < actual.minor ||
        (required.minor == actual.minor && required.patch ≤ actual.patch))

/-- A reason why a version does not satisfy a requirement. -/
inductive Shortfall
  /-- Only an exact match counts, and the tags differ. -/
  | tag (required found : Option String)
  /-- Only an exact match counts, and the components differ. -/
  | components (required found : Version)
  /-- The major numbers differ. -/
  | major (required found : Nat)
  /-- The minor number is older than required. -/
  | minor (required found : Nat)
  /-- The patch level is older than required. -/
  | patch (required found : Nat)
  deriving DecidableEq, Repr

/-- A tag as reasons name it. -/
def quoteTag : Option String → String
  | some tag => s!"'{tag}'"
  | none => "no tag"

/-- The reason in words. -/
def Shortfall.message : Shortfall → String
  | .tag required found =>
    s!"Tag mismatch: required {quoteTag required}, found {quoteTag found}"
  | .components required found =>
    "Exact match required for tagged or 0.x versions: required " ++ required.render ++
      ", found " ++ found.render
  | .major required found => s!"Major version mismatch: required v{required}, found v{found}"
  | .minor required found =>
    s!"Required minor version ({required}) is newer than available ({found})"
  | .patch required found =>
    s!"Required patch level ({required}) is newer than available ({found})"

/-- The reasons why the actual version does not satisfy a requirement on the other one. -/
def shortfalls (required actual : Version) : List Shortfall :=
  if needsExact required actual then
    (if required.tag = actual.tag then [] else [.tag required.tag actual.tag]) ++
      (if required.components = actual.components then [] else [.components required actual])
  else if required.major ≠ actual.major then [.major required.major actual.major]
  else if actual.minor < required.minor then [.minor required.minor actual.minor]
  else if required.minor = actual.minor ∧ actual.patch < required.patch then
    [.patch required.patch actual.patch]
  else []

end PluginKit.Version
