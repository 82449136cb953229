import PluginKit.Accessor.Spec
import PluginKit.Catalog
import PluginKit.Dependency
import PluginKit.Version.Compatibility

/-!
# The host of plugins

The host is what a plugin talks to.  It is built from settings once and holds the version that the
library reports about itself, the location of the web API and the catalog of error messages.

A plugin asks whether the library satisfies the version that it was written for.  `check` reports a
version that cannot be read as a fault and looks at the library's own version first; for `require`
the same is fatal.
-/

namespace PluginKit

/-- The host of plugins. -/
structure Host where
  version : String
  apiRoot : String
  catalog : Catalog
  deriving DecidableEq, Repr

namespace Host

/-- The host with these settings; their messages take precedence over the built-in ones. -/
def ofSettings (s : Settings) : Host where
  version := s.version
  apiRoot := s.apiRoot
  catalog := Catalog.builtin.registerAll s.messages.entries

instance : Inhabited Host := ⟨ofSettings {}⟩

/-- The host with another library version. -/
def withVersion (h : Host) (version : String) : Host :=
  { h with version := version }

/-- Reads a version on behalf of a subject. -/
def readVersion (subject : Subject) (value : String) : Except Fault Version :=
  (Version.parse value).mapError (Fault.invalidVersion subject value)

/-- Does the library satisfy a requirement? -/
def check (h : Host) (requirement : String) : Except Fault Bool := do
  let actual ← readVersion .library h.version
  let required ← readVersion .required requirement
  return actual.satisfies required

/-- The name under which `require` reports fatal errors. -/
def requireOrigin : String :=
  "tangelo.requireCompatibleVersion()"

/-- The fatal error that a fault of `check` becomes. -/
def haltOfFault (fault : Fault) : Halt where
  origin := some requireOrigin
  message :=
    match fault with
    | .invalidVersion .library value _ => "tangelo version number is invalid: " ++ value
    | .invalidVersion .required value _ => "invalid version string: " ++ value
    | fault => fault.message

/-- Does the library satisfy a requirement?  A version that cannot be read is fatal. -/
def require (h : Host) (requirement : String) : Except Halt Bool :=
  (h.check requirement).mapError haltOfFault

/-- The incident of a code. -/
def incident (h : Host) (code : UInt32) : Incident :=
  Incident.ofCatalog h.catalog code

end Host

end PluginKit
