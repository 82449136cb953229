import PluginKit.Cli.Failure
import PluginKit.Cli.Output

/-!
# The console

A command works on a console: it writes lines to an output, in the format and with the colours that
the console is set to.  A line that the output refuses ends the command.
-/

namespace PluginKit.Cli

/-- Where a command writes. -/
structure Console where
  settings : OutputSettings
  /-- How parts of a text are set off; none without colours. -/
  color : Option Paint := none
  /-- What stands on the output after it is handed a text, and the reason if it refuses the text. -/
  put : (written text : String) → String × Option String :=
    fun written text => (written ++ text, none)

/-- The output takes every text. -/
def Console.Accepts (console : Console) : Prop :=
  ∀ written text, console.put written text = (written ++ text, none)

/-- A command at work on a console, with what stands on the output as its state. -/
abbrev Handler :=
  ReaderT Console (ExceptT Ending (StateM String))

namespace Handler

variable {α : Type}

/-- What comes of a handler, and what stands on the output then. -/
def runOn (x : Handler α) (console : Console) (written : String) : Except Ending α × String :=
  ((x.run console).run.run written).run

/-- How a command ends on a console, and what it writes. -/
def ran (x : Handler Unit) (console : Console) : Ending × String :=
  match x.runOn console "" with
  | (.ok _, written) => (.done, written)
  | (.error ending, written) => (ending, written)

/-- Goes on with a value, or ends. -/
def orEnd : Except Ending α → Handler α
  | .ok value => pure value
  | .error ending => throw ending

/-- Goes on with a value, or fails. -/
def orFail (x : Except Failure α) : Handler α :=
  orEnd (x.mapError .failed)

/-! ## Writing -/

/-- Leaves a text on the output, and fails if there is a reason to. -/
def leave : String × Option String → Handler Unit
  | (written, none) => set written
  | (written, some reason) => do
    set written
    throw (.failed (.unwritable reason))

/-- Writes a line. -/
def writeLine (text : String) : Handler Unit := do
  leave ((← read).put (← get) (text ++ "\n"))

/-- Writes a report in the format of the console; the words for people may go by the colours. -/
def result (document : Json) (words : Option Paint → String) : Handler Unit := do
  let console ← read
  match console.settings.format.write? document with
  | some text => writeLine (String.ofList (Blank.trimEnd text))
  | none => writeLine (words console.color)

/-- Writes a note for people, unless notes are silenced. -/
def info (text : String) : Handler Unit := do
  let console ← read
  if console.settings.quiet || console.settings.format ≠ .human then pure ()
  else
    match console.color with
    | some paint => writeLine (paint .note "ℹ" ++ " " ++ text)
    | none => writeLine ("INFO: " ++ text)

/-- Writes a warning for people. -/
def warning (text : String) : Handler Unit := do
  let console ← read
  if console.settings.format ≠ .human then pure ()
  else
    match console.color with
    | some paint => writeLine (paint .warning text)
    | none => writeLine ("WARNING: " ++ text)

end Handler

end PluginKit.Cli
