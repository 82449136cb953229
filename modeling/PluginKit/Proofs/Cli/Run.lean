import PluginKit.Cli.Program
import PluginKit.Proofs.Cli.Simulation

/-!
# Runs that reach their command

A run reaches its command if the words spell an invocation, the configuration is loaded and can be
used, and setting up logging does not stop the program.  It then leaves behind what the command says
to the host with the settings of the configuration, and ends as the command does:

    run environment files input words = finished notes (t.ending, writeMessages i.settings t.messages)
      where t = Transcript.ofCommand h files input i.command                (Reaches.run_eq_finished)

Logging stops a run that is not quiet if reading its filter ends inside a character, and no other
(`LogFilter.proceeds_iff`); nothing is said here about a run that is stopped so.
-/

namespace PluginKit.Cli

/-- Setting up logging does not stop the program. -/
def LogFilter.Proceeds (environment : Environment) (quiet : Bool) : Prop :=
  notes? environment quiet ≠ none

theorem LogFilter.proceeds_iff {environment : Environment} {quiet : Bool} :
    Proceeds environment quiet ↔
      quiet = true ∨
        ∀ filter, environment.logFilter = some filter →
          environment.checkFilter filter ≠ .error .insideCharacter := by
  unfold Proceeds notes? filterNote?
  rw [Ne, Option.map_eq_none_iff]
  cases quiet with
  | true => simp
  | false =>
    cases environment.logFilter with
    | none => simp
    | some filter =>
      cases hcheck : environment.checkFilter filter with
      | ok => simp [Option.filter_some, hcheck]
      | error fault => cases fault <;> simp [Option.filter_some, hcheck]

namespace Program

/-- The words spell this invocation, and its command is run for this host. -/
structure Reaches (environment : Environment) (files : FileSystem) (words : List String)
    (i : Invocation) (h : Host) : Prop where
  ofWords : Invocation.ofWords environment.configFile words = .ok i
  /-- A configuration that can be used is in force. -/
  configuration : ∃ configuration, Configuration.load files environment i.configFile =
    .ok configuration ∧ configuration.ensureUsable = .ok () ∧ h = .ofSettings configuration.library
  proceeds : LogFilter.Proceeds environment i.settings.quiet

variable {environment : Environment} {files : FileSystem} {words : List String} {i : Invocation}
  {h : Host}

/-- The output of a run takes everything. -/
theorem accepts_of_settings (settings : OutputSettings) : Console.Accepts { settings } :=
  fun _ _ => rfl

theorem perform_of_usable {configuration : Configuration}
    (husable : configuration.ensureUsable = .ok ()) (texts : Texts) (files : FileSystem)
    (input : ByteArray) (command : Command) :
    perform texts configuration files input command =
      Handler.ofCommand texts (.ofSettings configuration.library) files input command := by
  unfold perform
  rw [husable]
  rfl

/-- A run ends as the handler of its command does, and writes what that writes. -/
theorem Reaches.run_eq_ran (hreaches : Reaches environment files words i h) (input : ByteArray) :
    ∃ notes, run environment files input words =
      finished notes
        ((Handler.ofCommand environment.texts h files input i.command).ran
          { settings := i.settings }) := by
  obtain ⟨notes, hnotes⟩ := Option.ne_none_iff_exists'.1 hreaches.proceeds
  obtain ⟨configuration, hload, husable, rfl⟩ := hreaches.configuration
  refine ⟨notes, ?_⟩
  unfold run invoke
  simp only [hreaches.ofWords, hload, hnotes, perform_of_usable husable]

/-- A run goes by the transcript of its command. -/
theorem Reaches.run_eq_finished (hreaches : Reaches environment files words i h)
    (hcommand : ∀ shell, i.command ≠ .completions shell) (input : ByteArray) :
    let t := Transcript.ofCommand h files input i.command
    ∃ notes, run environment files input words =
      finished notes (t.ending, writeMessages i.settings t.messages) := by
  obtain ⟨notes, hrun⟩ := hreaches.run_eq_ran input
  rw [Handler.ofCommand_eq_replay _ _ _ _ hcommand,
    Handler.ran_replay (accepts_of_settings i.settings)] at hrun
  exact ⟨notes, hrun⟩

theorem Reaches.exitCode_run (hreaches : Reaches environment files words i h)
    (hcommand : ∀ shell, i.command ≠ .completions shell) (input : ByteArray) :
    (run environment files input words).exitCode =
      (Transcript.ofCommand h files input i.command).ending.exitCode := by
  obtain ⟨notes, hrun⟩ := hreaches.run_eq_finished hcommand input
  rw [hrun]
  rfl

theorem Reaches.stdout_run (hreaches : Reaches environment files words i h)
    (hcommand : ∀ shell, i.command ≠ .completions shell) (input : ByteArray) :
    (run environment files input words).stdout =
      writeMessages i.settings (Transcript.ofCommand h files input i.command).messages := by
  obtain ⟨notes, hrun⟩ := hreaches.run_eq_finished hcommand input
  rw [hrun]
  rfl

end Program

end PluginKit.Cli
