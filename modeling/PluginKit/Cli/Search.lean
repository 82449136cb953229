import PluginKit.Cli.Environment
import PluginKit.Text.Cut

/-!
# Configuration files

The configuration is read from the file that is named on the command line or in the environment, and
otherwise from the first file in a list of places that can be read.  A file with the extension
`yaml` or `yml` holds YAML, any other JSON.
-/

namespace PluginKit.Cli.Configuration

/-- What follows the last point of a file name; none if nothing stands before that point. -/
def extension? (path : String) : Option String :=
  let name := (path.toList.splitOn '/').getLastD []
  match Cut.last? '.' name with
  | some (_ :: _, extension) => some (String.ofList extension)
  | _ => none

/-- Is the file at this path to be read as YAML? -/
def isYaml (path : String) : Bool :=
  extension? path == some "yaml" || extension? path == some "yml"

/-- The configuration in a text, in the language that the path asks for. -/
def decode (decoders : Decoders) (path text : String) : Except Failure Configuration :=
  if isYaml path then
    match decoders.yaml text with
    | some configuration => .ok configuration
    | none => .error .yaml
  else
    match decoders.json text with
    | some configuration => .ok configuration
    | none => .error .json

/-- The configuration in a file. -/
def ofFile (decoders : Decoders) (files : FileSystem) (path : String) :
    Except Failure Configuration :=
  match (files path).read? with
  | none => .error (.fileNotFound path)
  | some (.error cause) => .error (.unreadable cause)
  | some (.ok text) => decode decoders path text

/-! ## Places -/

/-- The home directory, if it is known: the one that is set, or else that of the account. -/
def home? (environment : Environment) : Option String :=
  (environment.home.filter (· ≠ "")).or (environment.accountHome.filter (· ≠ ""))

/-- The directory of the user's configuration files, if it is known.  A path that is not absolute is
passed over in favour of the usual place. -/
def directory? (environment : Environment) : Option String :=
  match environment.configHome.filter fun path => path.toList.head? = some '/' with
  | some path => some path
  | none => (home? environment).map (FileSystem.pathIn · ".config")

/-- The files of a directory in the order in which they are looked for. -/
def inDirectory (directory : Option String) (names : List String) : List String :=
  match directory with
  | some directory => names.map (FileSystem.pathIn directory)
  | none => []

/-- The places of the configuration, in the order in which they are looked at. -/
def candidates (environment : Environment) : List String :=
  [".tangelo.yaml", ".tangelo.json", "tangelo.yaml", "tangelo.json"] ++
    inDirectory (directory? environment) ["tangelo/config.yaml", "tangelo/config.json"] ++
    inDirectory (home? environment) [".tangelo.yaml", ".tangelo.json"]

/-- The configuration of the first file that gives one. -/
def firstOf (decoders : Decoders) (files : FileSystem) (paths : List String) :
    Option Configuration :=
  paths.findSome? fun path => (ofFile decoders files path).toOption

/-- The configuration: that of the selected file, or else of the first place that gives one, or else
the default. -/
def load (files : FileSystem) (environment : Environment) (selected : Option String) :
    Except Failure Configuration :=
  match selected with
  | some path => ofFile environment.decoders files path
  | none => .ok ((firstOf environment.decoders files (candidates environment)).getD {})

end PluginKit.Cli.Configuration
