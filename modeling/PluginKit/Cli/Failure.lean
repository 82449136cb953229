import PluginKit.Fault
import PluginKit.Files
import PluginKit.Halt

/-!
# How commands end

A command ends well, by a failure with a message and an exit code of its own, or by a fatal error.
-/

namespace PluginKit.Cli

/-- Why a command fails. -/
inductive Failure
  /-- The version does not satisfy the requirement. -/
  | incompatible (required actual : String)
  /-- The library reports a fault. -/
  | fault (fault : Fault)
  /-- The text is no version. -/
  | version (error : Version.Error)
  | fileNotFound (path : String)
  /-- The file does not hold what it should. -/
  | invalidFormat (path expected : String)
  /-- The configuration cannot be used. -/
  | config (problem : String)
  /-- An argument cannot be used. -/
  | invalidArguments (problem : String)
  /-- Something cannot be read. -/
  | unreadable (cause : ReadFault)
  /-- The output refuses what is written, for the reason given. -/
  | unwritable (reason : String)
  /-- A text is no JSON text, or not one of the value that is asked for. -/
  | json
  /-- A text is no YAML text, or not one of the value that is asked for. -/
  | yaml

namespace Failure

/-- The failure in words.  What the parsers of JSON and YAML say is left out. -/
def message : Failure → String
  | .incompatible required actual => s!"Version {required} is not compatible with {actual}"
  | .fault cause => cause.message
  | .version error => "Invalid version: " ++ error.message
  | .fileNotFound path => s!"File not found: {path}"
  | .invalidFormat path expected => s!"Invalid file format for {path}: expected {expected}"
  | .config problem => s!"Configuration error: {problem}"
  | .invalidArguments problem => s!"Invalid arguments: {problem}"
  | .unreadable cause => "IO error: " ++ cause.message
  | .unwritable reason => "IO error: " ++ reason
  | .json => "JSON error: "
  | .yaml => "YAML error: "

/-- The exit code of the failure. -/
def exitCode : Failure → Nat
  | .incompatible _ _ => 1
  | .fault _ => 2
  | .version _ => 2
  | .fileNotFound _ => 3
  | .invalidFormat _ _ => 4
  | .config _ => 5
  | .invalidArguments _ => 6
  | .unreadable _ => 7
  | .unwritable _ => 7
  | .json => 12
  | .yaml => 13

/-- Does the way to the help follow the message? -/
def showsHelp : Failure → Bool
  | .invalidArguments _ => true
  | _ => false

/-- What is written about the failure. -/
def report (f : Failure) : String :=
  "Error: " ++ f.message ++ "\n" ++
    (if f.showsHelp then "\nFor more information, try '--help'\n" else "")

end Failure

/-- How a command ends. -/
inductive Ending
  | done
  | failed (failure : Failure)
  /-- A fatal error; it is logged, and nothing else is written about it. -/
  | halted (halt : Halt)

namespace Ending

/-- The exit code of the program. -/
def exitCode : Ending → Nat
  | .done => 0
  | .failed failure => failure.exitCode
  | .halted _ => Halt.exitCode

/-- What is written about the ending. -/
def report : Ending → String
  | .done => ""
  | .failed failure => failure.report
  | .halted _ => ""

end Ending

end PluginKit.Cli
