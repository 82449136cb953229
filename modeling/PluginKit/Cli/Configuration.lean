import PluginKit.Cli.Failure
import PluginKit.Settings
import PluginKit.Yaml.Node

/-!
# Configurations

A configuration has the settings of the library and those of the log.  It is decoded from a YAML or
JSON text, in which everything may be left out.
-/

namespace PluginKit.Cli

/-- How the program logs. -/
structure LogSettings where
  /-- The format of log lines. -/
  format : String := "compact"
  /-- Do log lines name their thread? -/
  threadIds : Bool := false
  deriving DecidableEq, Repr, Inhabited

/-- The configuration of the program. -/
structure Configuration where
  library : Settings := {}
  logging : LogSettings := {}
  deriving DecidableEq, Repr, Inhabited

/-- The settings that a document gives. -/
def LogSettings.ofDocument? {δ : Type} [Document δ] (document : δ) : Option LogSettings := do
  match ← Document.fields? ["format", "thread_ids"] document with
  | [format, threadIds] =>
    return {
      format := ← Document.orDefault ({} : LogSettings).format Document.text? format
      threadIds := ← Document.orDefault ({} : LogSettings).threadIds Document.bool? threadIds }
  | _ => none

namespace Configuration

/-- The configuration that a document gives. -/
def ofDocument? {δ : Type} [Document δ] (document : δ) : Option Configuration := do
  match ← Document.fields? ["library", "logging"] document with
  | [library, logging] =>
    return {
      library := ← Document.orDefault {} Settings.ofDocument? library
      logging := ← Document.orDefault {} LogSettings.ofDocument? logging }
  | _ => none

/-- The configuration that a JSON text gives. -/
def ofJsonText? (text : String) : Option Configuration :=
  (Json.Draft.ofText? text.toList).bind ofDocument?

/-- The configuration that a YAML text gives. -/
def ofYamlText? (text : String) : Option Configuration :=
  (Yaml.Part.ofText? text.toList).bind ofDocument?

/-- Refuses a configuration that cannot be used at all. -/
def ensureUsable (configuration : Configuration) : Except Failure Unit :=
  if configuration.library.apiRoot.isEmpty then .error (.config "api_root must not be empty")
  else .ok ()

end Configuration

/-- What decodes the texts of configuration files. -/
structure Decoders where
  yaml : String → Option Configuration := Configuration.ofYamlText?
  json : String → Option Configuration := Configuration.ofJsonText?
  deriving Inhabited

end PluginKit.Cli
