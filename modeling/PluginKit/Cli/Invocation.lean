import PluginKit.Cli.Words

/-!
# Invocations

What a command line asks for: a command with its arguments, the configuration file, and how messages
are written.  The parameters of every command count wherever they stand; of two values the one
behind the command is taken, and a value of the environment only if none is given at all.
-/

namespace PluginKit.Cli

/-- A command with its arguments. -/
inductive Command
  /-- Shows the version of the library and the location of its API. -/
  | version
  /-- Checks a required version, against another one than the library's if that is given. -/
  | check (requirement : String) (against : Option String) (fatal : Bool)
  /-- Shows the parts of a version. -/
  | parse (text : String)
  /-- Applies an accessor to records, which are read from a file or from the input. -/
  | access (spec : String) (records : Option String)
  /-- Shows the incident of an error code, with another message if that is given. -/
  | error (code : UInt32) (message : Option String)
  /-- Writes a script for a shell. -/
  | completions (shell : Shell)
  deriving DecidableEq, Repr, Inhabited

/-- What a command line asks for. -/
structure Invocation where
  command : Command
  /-- The configuration file that is selected. -/
  configFile : Option String
  settings : OutputSettings
  deriving DecidableEq, Repr

/-- The command of a stretch, if what it needs is given. -/
def Command.ofStretch? (verb : Verb) (s : Stretch) : Option Command :=
  match verb with
  | .version => some .version
  | .check => do
    return .check (← s.value? .requirement) (s.value? .against) (s.isGiven .fatal)
  | .parse => do return .parse (← s.value? .text)
  | .access => do return .access (← s.value? .spec) (s.value? .records)
  | .error => do return .error (← (s.value? .code).bind codeOfText?) (s.value? .message)
  | .completions => do return .completions (← (s.value? .shell).bind Shell.ofName?)

namespace CommandLine

/-- The value of a parameter that every command has. -/
def value? (line : CommandLine) (parameter : Parameter) : Option String :=
  (line.after.value? parameter).or (line.before.value? parameter)

/-- The format of reports. -/
def format (line : CommandLine) : Format :=
  ((line.value? .output).bind Format.ofName?).getD .human

end CommandLine

namespace Invocation

/-- The invocation that words spell, where the environment may select a configuration file. -/
def ofWords (file : Option String) (words : List String) : Except Stop Invocation := do
  let line ← CommandLine.ofWords file words
  match Command.ofStretch? line.verb line.after with
  | some command =>
    return {
      command
      configFile := (line.value? .config).or file
      settings := { format := line.format, quiet := (line.value? .quiet).isSome } }
  | none => throw (.usage .missingCommand)

/-- Does the command read the input? -/
def readsInput (i : Invocation) : Bool :=
  match i.command with
  | .access _ none => true
  | _ => false

end Invocation

end PluginKit.Cli
