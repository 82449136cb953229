import PluginKit.Cli.Environment

/-!
# Setting up logging

A log filter that cannot be read is reported when the program starts, as is an unknown format of log
lines; neither keeps a command from running.
-/

namespace PluginKit.Cli.LogFilter

/-- The formats of log lines. -/
def formats : List String :=
  ["compact", "full", "json"]

/-- The note about a format of log lines that does not exist. -/
def formatNote (environment : Environment) : String :=
  match environment.logFormat with
  | some format =>
    if formats.contains format.toLower then ""
    else s!"Invalid log format: {format}, using default\n"
  | none => ""

/-- The note about a filter that cannot be read; none if the program stops there.  A quiet program
does not look at the filter. -/
def filterNote? (environment : Environment) (quiet : Bool) : Option String :=
  match environment.logFilter.filter fun _ => !quiet with
  | some filter =>
    match environment.checkFilter filter with
    | .ok _ => some ""
    | .error .insideCharacter => none
    | .error fault =>
      some ("Failed to initialize logging: Configuration error: " ++
        s!"Invalid log filter '{filter}': " ++ fault.message ++ "\n")
  | none => some ""

/-- What is written about logging when the program starts; none if the program stops there. -/
def notes? (environment : Environment) (quiet : Bool) : Option String :=
  (filterNote? environment quiet).map (formatNote environment ++ ·)

end PluginKit.Cli.LogFilter
