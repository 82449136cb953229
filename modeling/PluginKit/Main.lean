import PluginKit.Cli.Program

/-!
# The command line program

Reads the environment, the files that the command may look at and the input, runs the program on
them and writes what it says.
-/

namespace PluginKit.Main

open Cli

/-- The home directory of the account that the program runs for. -/
def accountHome : IO (Option String) := do
  try
    let status ← IO.FS.readFile "/proc/self/status"
    let accounts ← IO.FS.readFile "/etc/passwd"
    return (userOfStatus? status).bind (homeOfAccount? accounts)
  catch _ => return none

/-- What the program finds around it. -/
def environment : IO Environment := do
  return {
    configFile := ← IO.getEnv "TANGELO_CONFIG"
    logFormat := ← IO.getEnv "TANGELO_LOG_FORMAT"
    logFilter := ← IO.getEnv "RUST_LOG"
    home := ← IO.getEnv "HOME"
    accountHome := ← accountHome
    configHome := ← IO.getEnv "XDG_CONFIG_HOME" }

/-- The numbers by which the system says that a path leads to a directory. -/
def directoryCodes : List UInt32 :=
  [21, -21]

/-- What stands at a path.  A path that is too long leads nowhere. -/
def fileState (path : String) : IO FileState := do
  try
    return .file (← IO.FS.readBinFile path)
  catch
    | .noFileOrDirectory _ _ _ => return .missing
    | .invalidArgument _ _ _ => return .missing
    | .inappropriateType _ code _ =>
      return if directoryCodes.contains code then .directory else .missing
    | e => return .locked (toString e)

/-- The file system, as far as it is looked at. -/
def fileSystem (paths : List String) : IO FileSystem := do
  let states ← paths.mapM fun path => do return (path, ← fileState path)
  return fun path => ((states.find? (·.1 == path)).map (·.2)).getD .missing

/-- Reads the input to its end. -/
def readInput : IO ByteArray := do
  (← IO.getStdin).readBinToEnd

end PluginKit.Main

/-- Runs the program. -/
def main (words : List String) : IO UInt32 := do
  let environment ← PluginKit.Main.environment
  let outcome ←
    match PluginKit.Cli.Invocation.ofWords environment.configFile words with
    | .error stop => pure (PluginKit.Cli.Program.stopped environment.texts stop)
    | .ok i =>
      let files ← PluginKit.Main.fileSystem (PluginKit.Cli.Program.filesOf environment i)
      let input ← if i.readsInput then PluginKit.Main.readInput else pure ByteArray.empty
      pure (PluginKit.Cli.Program.invoke environment files input i)
  IO.print outcome.stdout
  IO.eprint outcome.stderr
  return outcome.exitCode.toUInt32
