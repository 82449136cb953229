import PluginKit.Json.Basic
import PluginKit.Version.Parser

/-!
# Versions in JSON

A version is a JSON string that can be read as a version.
-/

namespace PluginKit.Version

/-- Why a JSON value gives no version. -/
inductive JsonFault
  /-- It is no string. -/
  | notText
  /-- It is a string that is no version. -/
  | malformed (error : Error)
  deriving DecidableEq, Repr

/-- The version that a JSON value gives. -/
def ofJson : Json → Except JsonFault Version
  | .str text => (parse text).mapError .malformed
  | _ => .error .notText

/-- The version as a JSON value. -/
def toJson (v : Version) : Json :=
  .str v.render

end PluginKit.Version
