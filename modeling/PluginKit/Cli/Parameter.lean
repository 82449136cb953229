import PluginKit.Cli.Output
import PluginKit.Text.Numeral

/-!
# Commands and their parameters

What can stand on the command line: the commands, the options, which begin with hyphens, and the
operands, which stand for themselves.  Some options belong to every command and may also stand
before it; the others belong to one command.
-/

namespace PluginKit.Cli

/-- The name of a command. -/
inductive Verb
  | version
  | check
  | parse
  | access
  | error
  | completions
  deriving DecidableEq, Repr, Inhabited

/-- The name as it is written. -/
def Verb.name : Verb → String
  | .version => "version"
  | .check => "check"
  | .parse => "parse"
  | .access => "access"
  | .error => "error"
  | .completions => "completions"

/-- All commands. -/
def Verb.all : List Verb :=
  [.version, .check, .parse, .access, .error, .completions]

/-- The command with a name. -/
def Verb.ofName? (name : String) : Option Verb :=
  all.find? (·.name == name)

/-- A shell that can complete command lines. -/
inductive Shell
  | bash
  | zsh
  | fish
  | powerShell
  | elvish
  deriving DecidableEq, Repr, Inhabited

/-- The shell with a name. -/
def Shell.ofName? : String → Option Shell
  | "bash" => some .bash
  | "zsh" => some .zsh
  | "fish" => some .fish
  | "power-shell" => some .powerShell
  | "elvish" => some .elvish
  | _ => none

/-- The error code that a text gives: a numeral of 32 bits, with or without a sign. -/
def codeOfText? (text : String) : Option UInt32 :=
  match text.toList with
  | '+' :: digits => (Numeral.read? digits).bind ofNat?
  | '-' :: digits => ((Numeral.read? digits).filter (· == 0)).bind ofNat?
  | digits => (Numeral.read? digits).bind ofNat?
where
  /-- The code with this number. -/
  ofNat? (n : Nat) : Option UInt32 :=
    if n < UInt32.size then some n.toUInt32 else none

/-- A parameter of a command. -/
inductive Parameter
  /-- More log lines; the more often it is given, the more. -/
  | verbose
  /-- Fewer messages. -/
  | quiet
  /-- The configuration file. -/
  | config
  /-- The format of reports. -/
  | output
  /-- No colours. -/
  | noColor
  /-- The help. -/
  | help
  /-- The version of the program. -/
  | version
  /-- The version to check against. -/
  | against
  /-- A version that cannot be read is fatal. -/
  | fatal
  /-- The accessor spec. -/
  | spec
  /-- The message of an error code. -/
  | message
  /-- The required version. -/
  | requirement
  /-- The version to read. -/
  | text
  /-- The file of records. -/
  | records
  /-- The error code. -/
  | code
  /-- The shell. -/
  | shell
  deriving DecidableEq, Repr, Inhabited

namespace Parameter

/-- The long name of an option. -/
def long? : Parameter → Option String
  | .verbose => some "verbose"
  | .quiet => some "quiet"
  | .config => some "config"
  | .output => some "output"
  | .noColor => some "no-color"
  | .help => some "help"
  | .version => some "version"
  | .against => some "against"
  | .fatal => some "fatal"
  | .spec => some "spec"
  | .message => some "message"
  | _ => none

/-- The short name of an option. -/
def short? : Parameter → Option Char
  | .verbose => some 'v'
  | .quiet => some 'q'
  | .config => some 'c'
  | .output => some 'o'
  | .help => some 'h'
  | .version => some 'V'
  | .spec => some 's'
  | .message => some 'm'
  | _ => none

/-- The parameter as messages name it. -/
def name : Parameter → String
  | .requirement => "<REQUIREMENT>"
  | .text => "<VERSION>"
  | .records => "[RECORDS]"
  | .code => "<CODE>"
  | .shell => "<SHELL>"
  | parameter => "--" ++ parameter.long?.getD ""

/-- Has the option a value? -/
def takesValue : Parameter → Bool
  | .config => true
  | .output => true
  | .against => true
  | .spec => true
  | .message => true
  | _ => false

/-- May the parameter be given more than once? -/
def mayRepeat (p : Parameter) : Bool :=
  p == .verbose

/-- May the parameter have this value? -/
def accepts : Parameter → String → Bool
  | .config, value => value ≠ ""
  | .records, value => value ≠ ""
  | .output, value => (Format.ofName? value).isSome
  | .code, value => (codeOfText? value).isSome
  | .shell, value => (Shell.ofName? value).isSome
  | _, _ => true

/-- The options that every command has. -/
def common : List Parameter :=
  [.verbose, .quiet, .config, .output, .noColor, .help, .version]

end Parameter

namespace Verb

/-- The options of a command beside the common ones. -/
def options : Verb → List Parameter
  | .check => [.against, .fatal]
  | .access => [.spec]
  | .error => [.message]
  | _ => []

/-- The operands of a command in their order. -/
def operands : Verb → List Parameter
  | .version => []
  | .check => [.requirement]
  | .parse => [.text]
  | .access => [.records]
  | .error => [.code]
  | .completions => [.shell]

/-- The parameters that a command cannot do without. -/
def required : Verb → List Parameter
  | .version => []
  | .check => [.requirement]
  | .parse => [.text]
  | .access => [.spec]
  | .error => [.code]
  | .completions => [.shell]

end Verb

end PluginKit.Cli
