import PluginKit.Cli.Handler
import PluginKit.Cli.Logging
import PluginKit.Cli.Search

/-!
# The program

A run goes through these stages: the command line is read, the configuration is loaded, problems
with logging are noted, the configuration is checked, and the handler of the command does its work.
A stage that fails is the last one; problems with logging are no failure, apart from the one that
stops the program.

The output of a run is no terminal: it is without colours, and it takes everything.
-/

namespace PluginKit.Cli

/-- What a run of the program leaves behind. -/
structure Outcome where
  exitCode : Nat
  stdout : String := ""
  /-- The error output.  Log lines, which go there too, are left out. -/
  stderr : String := ""
  deriving DecidableEq, Repr

namespace Program

/-- The name of the program. -/
def name : String :=
  "tangelo"

/-- The version of the program. -/
def version : String :=
  "0.7.0-dev"

/-- The name of the program, with that of a command behind it. -/
def fullName : Option Verb → String
  | none => name
  | some verb => name ++ "-" ++ verb.name

/-- The outcome of a command line that does not lead to a command. -/
def stopped (texts : Texts) : Stop → Outcome
  | .help => { exitCode := 0, stdout := texts.help }
  | .version verb => { exitCode := 0, stdout := fullName verb ++ " " ++ version ++ "\n" }
  | .nothing => { exitCode := 2, stderr := texts.help }
  | .usage error => { exitCode := 2, stderr := "error: " ++ texts.usage error ++ "\n" }

/-- The outcome of a run that fails before the command. -/
def failed (failure : Failure) : Outcome where
  exitCode := failure.exitCode
  stderr := failure.report

/-- The command under a configuration, which must be usable. -/
def perform (texts : Texts) (configuration : Configuration) (files : FileSystem)
    (input : ByteArray) (command : Command) : Handler Unit := do
  Handler.orFail configuration.ensureUsable
  Handler.ofCommand texts (.ofSettings configuration.library) files input command

/-- The outcome of a command after notes, from its ending and what it writes. -/
def finished (notes : String) (ran : Ending × String) : Outcome where
  exitCode := ran.1.exitCode
  stdout := ran.2
  stderr := notes ++ ran.1.report

/-- The outcome of a run that stops while logging is set up. -/
def broken : Outcome where
  exitCode := 101
  stderr := LogFilter.Fault.insideCharacter.message ++ "\n"

/-- The outcome of an invocation. -/
def invoke (environment : Environment) (files : FileSystem) (input : ByteArray) (i : Invocation) :
    Outcome :=
  match Configuration.load files environment i.configFile with
  | .error failure => failed failure
  | .ok configuration =>
    match LogFilter.notes? environment i.settings.quiet with
    | none => broken
    | some notes =>
      finished notes
        ((perform environment.texts configuration files input i.command).ran
          { settings := i.settings })

/-- The outcome of a command line. -/
def run (environment : Environment) (files : FileSystem) (input : ByteArray) (words : List String) :
    Outcome :=
  match Invocation.ofWords environment.configFile words with
  | .error stop => stopped environment.texts stop
  | .ok i => invoke environment files input i

/-- The files that an invocation may look at. -/
def filesOf (environment : Environment) (i : Invocation) : List String :=
  let configuration :=
    match i.configFile with
    | some path => [path]
    | none => Configuration.candidates environment
  match i.command with
  | .access _ (some path) => path :: configuration
  | _ => configuration

end Program

end PluginKit.Cli
