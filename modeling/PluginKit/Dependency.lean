import PluginKit.Halt

/-!
# Missing dependencies

A stub takes the place of a plugin whose dependencies could not be loaded.  It can be passed around;
its use is fatal, and the message says what is missing.
-/

namespace PluginKit

/-- A plugin whose dependencies are missing. -/
structure Dependency where
  plugin : String
  required : List String
  deriving DecidableEq, Repr

namespace Dependency

/-- Names in a row: `a`, `a and b`, `a, b, and c`. -/
def enumerate : List String → String
  | [] => ""
  | [only] => only
  | [first, second] => first ++ " and " ++ second
  | names => ", ".intercalate names.dropLast ++ ", and " ++ names.getLastD ""

/-- What is missing. -/
def message (d : Dependency) : String :=
  "JavaScript include error: " ++ d.plugin ++ " requires " ++ enumerate d.required

/-- The fatal error of using the plugin. -/
def use (d : Dependency) : Halt where
  origin := none
  message := d.message

end Dependency

end PluginKit
