import PluginKit.Data.Document
import PluginKit.Fault
import PluginKit.Version.Parser

/-!
# Settings

The settings of the library: the version that it reports about itself, the location of the web API,
and messages for error codes of the application.  Each of them has a default, so that a document
gives only those that differ.
-/

namespace PluginKit

/-- The settings of the library. -/
structure Settings where
  /-- The version that the library reports about itself. -/
  version : String := "0.7.0-dev"
  /-- The location of the web API. -/
  apiRoot : String := "/api"
  /-- Messages for error codes, in addition to those that are built in. -/
  messages : Table UInt32 String := ∅
  deriving DecidableEq, Repr, Inhabited

namespace Settings

/-- The version that the library reports about itself if nothing else is set. -/
def defaultVersion : String :=
  ({} : Settings).version

/-! ## Validation -/

/-- Refuses a version that cannot be read. -/
def validateVersion (s : Settings) : Except Fault Unit :=
  match Version.parse s.version with
  | .ok _ => .ok ()
  | .error cause => .error (.configuration (.version s.version cause))

/-- Refuses a location of the API that does not begin with a slash. -/
def validateApiRoot (s : Settings) : Except Fault Unit :=
  if s.apiRoot.toList.head? = some '/' then .ok ()
  else .error (.configuration (.apiRoot s.apiRoot))

/-- Refuses settings that cannot be used; the version is looked at first. -/
def validate (s : Settings) : Except Fault Unit := do
  s.validateVersion
  s.validateApiRoot

/-! ## Documents -/

/-- The settings that a document gives. -/
def ofDocument? {δ : Type} [Document δ] (document : δ) : Option Settings := do
  let fields ← Document.fields? ["version", "api_root", "error_messages"] document
  match fields with
  | [version, apiRoot, messages] =>
    return {
      version := ← Document.orDefault ({} : Settings).version Document.text? version
      apiRoot := ← Document.orDefault ({} : Settings).apiRoot Document.text? apiRoot
      messages := ← Document.orDefault ∅ Document.messages? messages }
  | _ => none

/-- Messages as an object with their codes as keys. -/
def messagesToJson (messages : Table UInt32 String) : Json :=
  .obj (messages.entries.map fun (code, message) =>
    (String.ofList (Numeral.write code.toNat), .str message))

/-- The settings as an object. -/
def toJson (s : Settings) : Json :=
  .obj [("version", .str s.version), ("api_root", .str s.apiRoot),
    ("error_messages", messagesToJson s.messages)]

end Settings

end PluginKit
