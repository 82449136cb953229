import PluginKit.Cli.Parameter

/-!
# Reading the words of a command line

A command line is read from left to right in two stretches: the words before the command, and the
words after it.  A word that begins with a hyphen is an option, or several options in one word; any
other word is the value of the option before it, the command or an operand.  After the word `--`
every word is an operand.

A value is looked at only when the next parameter begins or the stretch ends; the last value before
the command is looked at only after all words that follow.  Asking for help or for the version ends
the reading at once.
-/

namespace PluginKit.Cli

/-- What is wrong with a command line. -/
inductive UsageError
  | unknownOption (name : String)
  | unexpectedWord (word : String)
  | unexpectedValue (parameter : Parameter)
  | missingValue (parameter : Parameter)
  | badValue (parameter : Parameter) (value : String)
  | repeated (parameter : Parameter)
  | conflict (one other : Parameter)
  | missing (parameter : Parameter)
  | missingCommand
  | unknownCommand (name : String)
  deriving DecidableEq, Repr

/-- The problem in words. -/
def UsageError.message : UsageError → String
  | .unknownOption name => s!"unexpected argument '{name}' found"
  | .unexpectedWord word => s!"unexpected argument '{word}' found"
  | .unexpectedValue parameter => s!"no value is expected for '{parameter.name}'"
  | .missingValue parameter => s!"a value is required for '{parameter.name}'"
  | .badValue parameter value => s!"invalid value '{value}' for '{parameter.name}'"
  | .repeated parameter => s!"the argument '{parameter.name}' cannot be used multiple times"
  | .conflict one other =>
    s!"the argument '{one.name}' cannot be used with '{other.name}'"
  | .missing parameter => s!"the argument '{parameter.name}' is required"
  | .missingCommand => "a command is required"
  | .unknownCommand name => s!"unrecognized command '{name}'"

/-- Why a command line does not lead to a command. -/
inductive Stop
  /-- The help is asked for. -/
  | help
  /-- The version of the program is asked for, perhaps behind a command. -/
  | version (verb : Option Verb)
  /-- Nothing is given at all. -/
  | nothing
  | usage (error : UsageError)
  deriving DecidableEq, Repr

/-- What is known of one stretch of the command line. -/
structure Stretch where
  /-- The command that the words follow. -/
  verb : Option Verb
  /-- The operands that may still come. -/
  operands : List Parameter
  /-- The parameters that are given, with their values. -/
  given : List (Parameter × String) := []
  /-- The parameter that was read last, with its value as soon as that is read too. -/
  pending : Option (Parameter × Option String) := none
  /-- Has the word `--` been read? -/
  literal : Bool := false
  deriving DecidableEq, Repr

namespace Stretch

/-- The stretch before the command. -/
def beforeCommand : Stretch where
  verb := none
  operands := []

/-- The stretch after a command. -/
def afterCommand (verb : Verb) : Stretch where
  verb := some verb
  operands := verb.operands

/-- The options of the stretch. -/
def options (s : Stretch) : List Parameter :=
  Parameter.common ++ (s.verb.map Verb.options).getD []

/-- The value of a parameter that is given. -/
def value? (s : Stretch) (parameter : Parameter) : Option String :=
  (s.given.find? (·.1 == parameter)).map (·.2)

/-- Is the parameter given? -/
def isGiven (s : Stretch) (parameter : Parameter) : Bool :=
  (s.value? parameter).isSome

/-- Is the option that was read last still without its value? -/
def isWaiting (s : Stretch) : Bool :=
  match s.pending with
  | some (_, none) => true
  | _ => false

/-! ## Parameters -/

/-- Takes a parameter with its value. -/
def give (s : Stretch) (parameter : Parameter) (value : String) : Except Stop Stretch :=
  if s.isGiven parameter && !parameter.mayRepeat then .error (.usage (.repeated parameter))
  else if !parameter.accepts value then .error (.usage (.badValue parameter value))
  else .ok { s with given := s.given ++ [(parameter, value)] }

/-- Takes the parameter that was read last. -/
def settle (s : Stretch) : Except Stop Stretch :=
  match s.pending with
  | none => .ok s
  | some (parameter, none) => .error (.usage (.missingValue parameter))
  | some (parameter, some value) => { s with pending := none }.give parameter value

/-- Takes an option without value. -/
def takeFlag (s : Stretch) (parameter : Parameter) : Except Stop Stretch := do
  let s ← s.settle
  if parameter = .help then throw .help
  if parameter = .version then throw (.version s.verb)
  s.give parameter ""

/-- Takes an option whose value stands in the same word. -/
def takeAttached (s : Stretch) (parameter : Parameter) (value : String) : Except Stop Stretch := do
  (← s.settle).give parameter value

/-- Takes an option whose value is the next word. -/
def await (s : Stretch) (parameter : Parameter) : Except Stop Stretch := do
  return { ← s.settle with pending := some (parameter, none) }

/-- Takes an operand. -/
def takeOperand (s : Stretch) (word : String) : Except Stop Stretch :=
  match s.operands with
  | [] => .error (.usage (.unexpectedWord word))
  | operand :: rest => do
    return { ← s.settle with operands := rest, pending := some (operand, some word) }

/-! ## Words -/

/-- Takes an option that is given by its long name. -/
def takeLong (s : Stretch) (word : List Char) : Except Stop Stretch :=
  let name := String.ofList (word.takeWhile (· ≠ '='))
  match s.options.find? (·.long? == some name) with
  | none => .error (.usage (.unknownOption ("--" ++ name)))
  | some parameter =>
    match word.dropWhile (· ≠ '='), parameter.takesValue with
    | [], false => s.takeFlag parameter
    | [], true => s.await parameter
    | _ :: _, false => .error (.usage (.unexpectedValue parameter))
    | _ :: value, true => s.takeAttached parameter (String.ofList value)

/-- The value behind a short name in the same word, with or without an equals sign before it. -/
def attachedValue : List Char → String
  | '=' :: value => String.ofList value
  | value => String.ofList value

/-- Takes options that are given by their short names in one word. -/
def takeShort (s : Stretch) : List Char → Except Stop Stretch
  | [] => .ok s
  | c :: rest =>
    match s.options.find? (·.short? == some c) with
    | none => .error (.usage (.unknownOption (String.ofList ['-', c])))
    | some parameter =>
      if !parameter.takesValue then do (← s.takeFlag parameter).takeShort rest
      else if rest.isEmpty then s.await parameter
      else s.takeAttached parameter (attachedValue rest)

/-- Takes a word that stands for itself: a value or an operand. -/
def takePlain (s : Stretch) (word : String) : Except Stop Stretch :=
  match s.pending with
  | some (parameter, none) => .ok { s with pending := some (parameter, some word) }
  | _ => s.takeOperand word

/-- Takes a word. -/
def take (s : Stretch) (word : String) : Except Stop Stretch :=
  if s.literal then s.takeOperand word
  else
    match word.toList with
    | ['-', '-'] => .ok { s with literal := true }
    | '-' :: '-' :: option => s.takeLong option
    | '-' :: c :: options => s.takeShort (c :: options)
    | _ => s.takePlain word

/-! ## The end of a stretch -/

/-- Refuses a configuration file of the environment that cannot stand for one that is not given. -/
def checkFile (s : Stretch) (file : Option String) : Except Stop Unit :=
  match file.filter fun file => !s.isGiven .config && !Parameter.config.accepts file with
  | some file => .error (.usage (.badValue .config file))
  | none => .ok ()

/-- Refuses parameters that exclude each other. -/
def checkConflict (s : Stretch) : Except Stop Unit :=
  if s.isGiven .quiet && s.isGiven .verbose then .error (.usage (.conflict .quiet .verbose))
  else .ok ()

/-- Refuses a stretch without a parameter that the command needs. -/
def checkRequired (s : Stretch) : Except Stop Unit :=
  match ((s.verb.map Verb.required).getD []).find? (!s.isGiven ·) with
  | some parameter => .error (.usage (.missing parameter))
  | none => .ok ()

/-- Ends a stretch, where the environment may give a configuration file. -/
def finish (s : Stretch) (file : Option String) : Except Stop Stretch := do
  let s ← s.settle
  s.checkFile file
  s.checkConflict
  s.checkRequired
  return s

end Stretch

/-! ## Command lines -/

/-- Reads the words before a command: gives the stretch, and the command with the words after it if
there is one. -/
def readBefore (s : Stretch) : List String → Except Stop (Stretch × Option (Verb × List String))
  | [] => .ok (s, none)
  | word :: rest =>
    let named := !s.literal && !s.isWaiting
    if named && word == "help" then .error (askForHelp rest)
    else
      match (Verb.ofName? word).filter fun _ => named with
      | some verb => .ok (s, some (verb, rest))
      | none => do readBefore (← s.take word) rest
where
  /-- How the command `help` ends, which may be followed by the name of one command. -/
  askForHelp : List String → Stop
    | [] => .help
    | [name] =>
      if name = "help" ∨ (Verb.ofName? name).isSome then .help else .usage (.unknownCommand name)
    | name :: other :: _ => .usage (.unknownCommand (name ++ " " ++ other))

/-- A command line that names a command: its stretches before and after the command. -/
structure CommandLine where
  verb : Verb
  before : Stretch
  after : Stretch
  deriving DecidableEq, Repr

/-- The command line that words spell. -/
def CommandLine.ofWords (file : Option String) (words : List String) : Except Stop CommandLine := do
  match ← readBefore .beforeCommand words with
  | (before, some (verb, rest)) =>
    let after ← (← rest.foldlM Stretch.take (.afterCommand verb)).finish file
    return { verb, after, before := ← before.finish file }
  | (before, none) =>
    let before ← before.finish file
    throw (if before.given.isEmpty && file.isNone then .nothing else .usage .missingCommand)

end PluginKit.Cli
