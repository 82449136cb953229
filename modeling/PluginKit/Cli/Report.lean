import PluginKit.Cli.Output
import PluginKit.Host

/-!
# Reports

What the commands report, each as a document with its fields in a fixed order, and in words.
-/

namespace PluginKit.Cli

/-- Texts as a list. -/
def textsToJson (texts : List String) : Json :=
  .arr (texts.map .str)

/-- What is reported about the library. -/
structure VersionReport where
  version : String
  apiRoot : String
  /-- Can the version be read? -/
  parseable : Bool
  deriving DecidableEq, Repr

namespace VersionReport

/-- The report as a document. -/
def toJson (r : VersionReport) : Json :=
  .obj [("version", .str r.version), ("api_root", .str r.apiRoot), ("parseable", .bool r.parseable)]

/-- The report in words, with the version set off. -/
def paintedWords (r : VersionReport) (paint : Paint) : String :=
  s!"tangelo {paint .strong r.version}\nAPI root: {r.apiRoot}"

/-- The report in words. -/
def words (r : VersionReport) : String :=
  r.paintedWords .plain

end VersionReport

/-- What is reported about a checked requirement. -/
structure CheckReport where
  required : String
  actual : String
  compatible : Bool
  /-- The reasons against. -/
  reasons : List String
  deriving DecidableEq, Repr

namespace CheckReport

/-- The report on a required and an actual version with this verdict. -/
def ofVersions (required actual : Version) (compatible : Bool) : CheckReport where
  required := required.render
  actual := actual.render
  compatible := compatible
  reasons := (Version.shortfalls required actual).map (·.message)

/-- The report as a document. -/
def toJson (r : CheckReport) : Json :=
  .obj [("required", .str r.required), ("actual", .str r.actual),
    ("compatible", .bool r.compatible), ("reasons", textsToJson r.reasons)]

/-- The verdict in words. -/
def verdict (r : CheckReport) : String :=
  if r.compatible then "compatible" else "incompatible"

/-- The report in words, with the verdict set off: the verdict, and a line for each reason. -/
def paintedWords (r : CheckReport) (paint : Paint) : String :=
  let verdict := paint (if r.compatible then .good else .bad) r.verdict
  "\n".intercalate
    (s!"{r.required} is {verdict} with {r.actual}" :: r.reasons.map ("  • " ++ ·))

/-- The report in words. -/
def words (r : CheckReport) : String :=
  r.paintedWords .plain

end CheckReport

/-- What is reported about a version that is read. -/
structure ParseReport where
  input : String
  components : List Nat
  tag : Option String
  normalized : String
  deriving DecidableEq, Repr

namespace ParseReport

/-- The report on a version and the text that it is read from. -/
def ofVersion (input : String) (v : Version) : ParseReport where
  input := input
  components := v.components
  tag := v.tag
  normalized := v.render

/-- The report as a document. -/
def toJson (r : ParseReport) : Json :=
  .obj [("input", .str r.input), ("components", .arr (r.components.map .ofNat)),
    ("tag", (r.tag.map Json.str).getD .null), ("normalized", .str r.normalized)]

/-- The components with commas between them. -/
def componentsText (r : ParseReport) : String :=
  ", ".intercalate (r.components.map fun n => String.ofList (Numeral.write n))

/-- The report in words. -/
def words (r : ParseReport) : String :=
  s!"Normalized: {r.normalized}\nComponents: {r.componentsText}\n" ++
    "Tag: " ++ r.tag.getD "(none)"

end ParseReport

/-- An incident in words, with its code set off. -/
def paintedIncidentWords (i : Incident) (paint : Paint) : String :=
  paint .bad ("[" ++ String.ofList (Numeral.write i.code.toNat) ++ "]") ++ " " ++ i.message

/-- An incident in words. -/
def incidentWords (i : Incident) : String :=
  paintedIncidentWords i .plain

/-- Values in words: a line for each, with its position and then the value in short. -/
def valuesWords (values : List Json) : String :=
  "\n".intercalate
    (values.mapIdx fun i value => String.ofList (Numeral.write i ++ ':' :: ' ' :: value.summary))

end PluginKit.Cli
