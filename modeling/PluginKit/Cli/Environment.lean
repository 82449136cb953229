import PluginKit.Cli.Configuration
import PluginKit.Cli.LogFilter
import PluginKit.Cli.Words

/-!
# What surrounds a run

A run reads some variables of its environment, and the list of accounts tells the home directory of
its user.  Libraries decode configuration files and read log filters.  Some texts come from libraries
too; nothing that the program does depends on what they say.
-/

namespace PluginKit.Cli

/-- Texts that libraries make for the program. -/
structure Texts where
  /-- The help. -/
  help : String := "Usage: tangelo [OPTIONS] <COMMAND>\n"
  /-- What is wrong with a command line. -/
  usage : UsageError → String := UsageError.message
  /-- The script with which a shell completes command lines. -/
  script : Shell → String := fun _ => "# tangelo\n"
  deriving Inhabited

/-- What the program finds around it. -/
structure Environment where
  /-- The configuration file. -/
  configFile : Option String := none
  /-- The format of log lines. -/
  logFormat : Option String := none
  /-- Which log lines are written. -/
  logFilter : Option String := none
  /-- The home directory that is set. -/
  home : Option String := none
  /-- The home directory of the user's account. -/
  accountHome : Option String := none
  /-- The directory of the user's configuration files. -/
  configHome : Option String := none
  texts : Texts := {}
  decoders : Decoders := {}
  /-- Refuses a log filter that cannot be read. -/
  checkFilter : String → Except LogFilter.Fault Unit := LogFilter.check
  deriving Inhabited

/-! ## Accounts -/

/-- The number of the user that a process belongs to, from the lines about its state. -/
def userOfStatus? (status : String) : Option String :=
  (status.splitOn "\n").findSome? fun line =>
    match line.splitOn "\t" with
    | "Uid:" :: user :: _ => some user
    | _ => none

/-- The home directory of the user with a number, from the list of accounts. -/
def homeOfAccount? (accounts user : String) : Option String :=
  (accounts.splitOn "\n").findSome? fun line =>
    match line.splitOn ":" with
    | _ :: _ :: number :: _ :: _ :: home :: _ => if number = user then some home else none
    | _ => none

end PluginKit.Cli
