import PluginKit.Cli.Failure
import PluginKit.Cli.Invocation
import PluginKit.Cli.Report

/-!
# What commands say and how they end

The transcript of a command holds its messages in their order and its ending, apart from the console
that they are written to.  The handlers of the commands go by it.
-/

namespace PluginKit.Cli

/-- What a command says and how it ends. -/
structure Transcript where
  messages : List Message
  ending : Ending

namespace Transcript

/-- A command that fails without a word. -/
def failed (failure : Failure) : Transcript where
  messages := []
  ending := .failed failure

/-! ## Versions -/

/-- Shows the version of the library, with a warning if it cannot be read. -/
def version (h : Host) : Transcript :=
  let report (parseable : Bool) : Message :=
    let r : VersionReport := { version := h.version, apiRoot := h.apiRoot, parseable }
    .report r.toJson r.words r.paintedWords
  match Version.parse h.version with
  | .ok _ => { messages := [report true], ending := .done }
  | .error e =>
    let warning := s!"The library version does not parse ({e.message}); " ++
      "version checks against it will fail"
    { messages := [report false, .warning warning], ending := .done }

/-- Shows the parts of a version. -/
def parse (text : String) : Transcript :=
  match Version.parse text with
  | .ok v =>
    let r := ParseReport.ofVersion text v
    { messages := [.report r.toJson r.words], ending := .done }
  | .error e => failed (.version e)

/-- The verdict on a requirement, or how the command ends without one. -/
def verdict (h : Host) (requirement : String) (fatal : Bool) : Except Ending Bool :=
  if fatal then (h.require requirement).mapError .halted
  else (h.check requirement).mapError fun cause => .failed (.fault cause)

/-- The report on a requirement with its verdict. -/
def checkReport (h : Host) (requirement : String) (compatible : Bool) :
    Except Version.Error CheckReport := do
  let required ← Version.parse requirement
  let actual ← Version.parse h.version
  return .ofVersions required actual compatible

/-- How a check with this report ends. -/
def checkEnding (r : CheckReport) : Ending :=
  if r.compatible then .done else .failed (.incompatible r.required r.actual)

/-- Checks a requirement against the version of the host, after some messages. -/
def checkAfter (messages : List Message) (h : Host) (requirement : String) (fatal : Bool) :
    Transcript :=
  match verdict h requirement fatal with
  | .error ending => { messages, ending }
  | .ok compatible =>
    match checkReport h requirement compatible with
    | .error e => { messages, ending := .failed (.version e) }
    | .ok r =>
      { messages := messages ++ [.report r.toJson r.words r.paintedWords], ending := checkEnding r }

/-- Checks a requirement against the version of the host, or against another one. -/
def check (h : Host) (requirement : String) (against : Option String) (fatal : Bool) : Transcript :=
  match against with
  | none => checkAfter [] h requirement fatal
  | some other =>
    checkAfter [.info s!"Checking against {other} instead of {h.version}"] (h.withVersion other)
      requirement fatal

/-! ## Records -/

/-- The values that an accessor gives for records: for each item of a list with its position, and
for anything else as if it were the only item.  A missing value becomes null. -/
def valuesOf (accessor : Accessor) (records : Json) : Except Fault (List Json) :=
  let items :=
    match records with
    | .arr items => items
    | single => [single]
  items.zipIdx.mapM fun (record, i) => do return (← accessor.call record (some i)).getD .null

/-- The records in a file. -/
def recordsOfFile (files : FileSystem) (path : String) : Except Failure Json :=
  match (files path).read? with
  | none => .error (.fileNotFound path)
  | some (.error cause) => .error (.unreadable cause)
  | some (.ok text) =>
    match Json.parse? text with
    | some records => .ok records
    | none => .error (.invalidFormat path "JSON")

/-- The records in the input. -/
def recordsOfInput (input : ByteArray) : Except Failure Json :=
  match textOfBytes input with
  | .error cause => .error (.unreadable cause)
  | .ok text =>
    match Json.parse? text with
    | some records => .ok records
    | none => .error .json

/-- The accessor that the text of a spec stands for. -/
def accessorOfText (spec : String) : Except Failure Accessor :=
  match Json.parse? spec with
  | none => .error (.invalidArguments "accessor spec is not valid JSON: ")
  | some spec => (Accessor.ofJson (some spec)).mapError .fault

/-- The values that the accessor of a spec gives for the records in a file or in the input. -/
def accessed (files : FileSystem) (input : ByteArray) (spec : String) (records : Option String) :
    Except Failure (List Json) := do
  let accessor ← accessorOfText spec
  let records ←
    match records with
    | some path => recordsOfFile files path
    | none => recordsOfInput input
  (valuesOf accessor records).mapError .fault

/-- Applies an accessor to records. -/
def access (files : FileSystem) (input : ByteArray) (spec : String) (records : Option String) :
    Transcript :=
  match accessed files input spec records with
  | .ok values => { messages := [.report (.arr values) (valuesWords values)], ending := .done }
  | .error failure => failed failure

/-! ## Incidents -/

/-- Shows the incident of an error code, with another message if that is given. -/
def error (h : Host) (code : UInt32) (message : Option String) : Transcript :=
  let i := (message.map (Incident.ofMessage code)).getD (h.incident code)
  { messages := [.report i.toJson (incidentWords i) (paintedIncidentWords i)], ending := .done }

/-! ## Commands -/

/-- What a command says and how it ends.  A script for a shell is no message: it is written past the
settings of the output. -/
def ofCommand (h : Host) (files : FileSystem) (input : ByteArray) : Command → Transcript
  | .version => version h
  | .check requirement against fatal => check h requirement against fatal
  | .parse text => parse text
  | .access spec records => access files input spec records
  | .error code message => error h code message
  | .completions _ => { messages := [], ending := .done }

end Transcript

end PluginKit.Cli
