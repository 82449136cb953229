import PluginKit.Json.Printer
import PluginKit.Version.Basic

/-!
# Recoverable faults

The faults that the library reports to its caller: a version that cannot be read, settings that
cannot be used, an accessor spec without a known key, and a call of the undefined accessor.
-/

namespace PluginKit

/-- Whose version a text was to be. -/
inductive Subject
  /-- The version that the library reports about itself. -/
  | library
  /-- The version that a plugin asks for. -/
  | required
  deriving DecidableEq, Repr

/-- The subject as messages name it. -/
def Subject.name : Subject → String
  | .library => "library"
  | .required => "required"

/-- What is wrong with settings. -/
inductive Misconfiguration
  /-- The library version cannot be read. -/
  | version (value : String) (cause : Version.Error)
  /-- The location of the API does not begin with a slash. -/
  | apiRoot (value : String)
  deriving DecidableEq, Repr

/-- The problem in words. -/
def Misconfiguration.message : Misconfiguration → String
  | .version value cause => s!"version '{value}' is not valid: " ++ cause.message
  | .apiRoot value => s!"api_root '{value}' must start with '/'"

/-- A recoverable fault. -/
inductive Fault
  | invalidVersion (subject : Subject) (value : String) (cause : Version.Error)
  | unrecognizedSpec (spec : Json)
  | undefinedAccessor
  | configuration (problem : Misconfiguration)

/-- The fault in words. -/
def Fault.message : Fault → String
  | .invalidVersion subject value _ => "invalid " ++ subject.name ++ s!" version string: {value}"
  | .unrecognizedSpec spec => "unknown accessor spec " ++ spec.render
  | .undefinedAccessor => "I am an undefined accessor - you shouldn't be calling me!"
  | .configuration problem => "Configuration error: " ++ problem.message

end PluginKit
