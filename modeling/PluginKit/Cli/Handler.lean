import PluginKit.Cli.Console
import PluginKit.Cli.Environment
import PluginKit.Cli.Transcript

/-!
# Handlers of the commands

A handler does the work of a command on a console.  Whatever fails ends it on the spot, and what is
written by then stays.
-/

namespace PluginKit.Cli.Handler

open Transcript

/-- Shows the version of the library, with a warning if it cannot be read. -/
def version (h : Host) : Handler Unit := do
  let parsed := Version.parse h.version
  let r : VersionReport := { version := h.version, apiRoot := h.apiRoot, parseable := parsed.isOk }
  result r.toJson fun color => r.paintedWords (color.getD .plain)
  match parsed with
  | .ok _ => pure ()
  | .error e =>
    warning (s!"The library version does not parse ({e.message}); " ++
      "version checks against it will fail")

/-- Checks a requirement against the version of the host, or against another one.  Both versions are
read once more after the verdict. -/
def check (h : Host) (requirement : String) (against : Option String) (fatal : Bool) :
    Handler Unit := do
  let target ←
    match against with
    | some other => do
      info s!"Checking against {other} instead of {h.version}"
      pure (h.withVersion other)
    | none => pure h
  let compatible ← orEnd (verdict target requirement fatal)
  let required ← orFail ((Version.parse requirement).mapError .version)
  let actual ← orFail ((Version.parse target.version).mapError .version)
  let r := CheckReport.ofVersions required actual compatible
  result r.toJson fun color => r.paintedWords (color.getD .plain)
  if compatible then pure ()
  else throw (.failed (.incompatible r.required r.actual))

/-- Shows the parts of a version. -/
def parse (text : String) : Handler Unit := do
  let v ← orFail ((Version.parse text).mapError .version)
  let r := ParseReport.ofVersion text v
  result r.toJson fun _ => r.words

/-- Applies an accessor to records, which are read from a file or from the input. -/
def access (files : FileSystem) (input : ByteArray) (spec : String) (records : Option String) :
    Handler Unit := do
  let accessor ← orFail (accessorOfText spec)
  let found ←
    match records with
    | some path => orFail (recordsOfFile files path)
    | none => orFail (recordsOfInput input)
  let values ← orFail ((valuesOf accessor found).mapError .fault)
  result (.arr values) fun _ => valuesWords values

/-- Shows the incident of an error code, with another message if that is given. -/
def error (h : Host) (code : UInt32) (message : Option String) : Handler Unit :=
  let i :=
    match message with
    | some message => Incident.ofMessage code message
    | none => h.incident code
  result i.toJson fun color => paintedIncidentWords i (color.getD .plain)

/-- Writes a script for a shell, past the settings of the console. -/
def completions (script : String) : Handler Unit :=
  modify (· ++ script)

/-- The handler of a command. -/
def ofCommand (texts : Texts) (h : Host) (files : FileSystem) (input : ByteArray) :
    Command → Handler Unit
  | .version => version h
  | .check requirement against fatal => check h requirement against fatal
  | .parse text => parse text
  | .access spec records => access files input spec records
  | .error code message => error h code message
  | .completions shell => completions (texts.script shell)

end PluginKit.Cli.Handler
