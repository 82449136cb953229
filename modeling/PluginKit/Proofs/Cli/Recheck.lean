import PluginKit.Proofs.Cli.Check
import PluginKit.Proofs.Version.Canonical

/-!
# Checks that are made again

A check looks at the versions that its texts are read as and at nothing else, so that checks of texts
that are read alike have the same report and the same ending:

    ReadAs requirement (against.getD h.version) required actual →
    ReadAs requirement' (against'.getD h'.version) required actual →
      (check h' requirement' against' fatal').reports = (check h requirement against fatal).reports
                                                                              (check_of_read_alike)

The versions of a report are read as the versions that it is about (`ReadAs.rendered`), so a check of
what is reported has the report that it is made from.
-/

namespace PluginKit.Cli.Transcript

variable {h h' : Host} {requirement requirement' target : String} {against against' : Option String}
  {required actual : Version}

/-- What is written for two versions is read as these versions. -/
theorem ReadAs.rendered (hread : ReadAs requirement target required actual) :
    ReadAs required.render actual.render required actual where
  required := Version.parse_render (Version.normal_of_parse hread.required)
  actual := Version.parse_render (Version.normal_of_parse hread.actual)

/-- Texts that are read alike are read as the same versions. -/
theorem ReadAs.of_parse_eq {target' : String} (hread : ReadAs requirement target required actual)
    (hrequirement : Version.parse requirement' = Version.parse requirement)
    (htarget : Version.parse target' = Version.parse target) :
    ReadAs requirement' target' required actual where
  required := hrequirement.trans hread.required
  actual := htarget.trans hread.actual

theorem check_of_read_alike (hread : ReadAs requirement (against.getD h.version) required actual)
    (hread' : ReadAs requirement' (against'.getD h'.version) required actual) (fatal fatal' : Bool) :
    (check h' requirement' against' fatal').reports = (check h requirement against fatal).reports ∧
      (check h' requirement' against' fatal').ending =
        (check h requirement against fatal).ending := by
  refine ⟨?_, ?_⟩
  · rw [reports_check_of_read hread', reports_check_of_read hread]
  · rw [check_of_read hread', check_of_read hread]

/-- A check of what a check reports. -/
theorem check_again (hread : ReadAs requirement (against.getD h.version) required actual)
    (h' : Host) (fatal fatal' : Bool) :
    let r := reportOn required actual
    (check h' r.required (some r.actual) fatal').reports = [(r.toJson, r.words)] ∧
      (check h' r.required (some r.actual) fatal').ending =
        (check h requirement against fatal).ending := by
  intro r
  have hagain : ReadAs r.required ((some r.actual).getD h'.version) required actual :=
    hread.rendered
  obtain ⟨hreports, hending⟩ := check_of_read_alike hread hagain fatal fatal'
  exact ⟨hreports.trans (reports_check_of_read hread fatal), hending⟩

end PluginKit.Cli.Transcript

/-! ## Runs of the program -/

namespace PluginKit.Cli.Program

open Transcript

variable {environment environment' : Environment} {files files' : FileSystem}
  {words words' : List String} {i i' : Invocation} {h h' : Host} {requirement requirement' : String}
  {against against' : Option String} {fatal fatal' : Bool} {required actual : Version}

/-- Runs of checks of texts that are read alike have the same exit code, and in the same format the
same text is written behind the note. -/
theorem run_check_of_read_alike (hreaches : Reaches environment files words i h)
    (hcommand : i.command = .check requirement against fatal)
    (hreaches' : Reaches environment' files' words' i' h')
    (hcommand' : i'.command = .check requirement' against' fatal')
    (hread : ReadAs requirement (against.getD h.version) required actual)
    (hread' : ReadAs requirement' (against'.getD h'.version) required actual)
    (input input' : ByteArray) :
    (run environment' files' input' words').exitCode = (run environment files input words).exitCode ∧
      (i'.settings.format = i.settings.format →
        ∃ text,
          (run environment files input words).stdout = checkNoteText i.settings h against ++ text ∧
          (run environment' files' input' words').stdout =
            checkNoteText i'.settings h' against' ++ text) := by
  refine ⟨?_, fun hformat => ⟨_, stdout_run_check_of_read hreaches hcommand input hread, ?_⟩⟩
  · rw [exitCode_run_check hreaches' hcommand', exitCode_check_of_read hread',
      exitCode_run_check hreaches hcommand, exitCode_check_of_read hread]
  · rw [stdout_run_check_of_read hreaches' hcommand' input' hread', hformat]

/-- **A check looks at versions, not at texts.**  A check of the versions in a report has this report
again and ends as the check that reported them; so do all checks of texts that are read alike, and
runs of the program that reach such checks have the same exit code and write the same report. -/
theorem checks_agree_on_spellings :
    (∀ h requirement against fatal required actual,
      ReadAs requirement (against.getD h.version) required actual →
      ∃ r : CheckReport, (check h requirement against fatal).reports = [(r.toJson, r.words)] ∧
        ReadAs r.required r.actual required actual ∧
        ∀ h' fatal',
          (check h' r.required (some r.actual) fatal').reports = [(r.toJson, r.words)] ∧
          (check h' r.required (some r.actual) fatal').ending =
            (check h requirement against fatal).ending) ∧
    (∀ h h' requirement requirement' against against' fatal fatal',
      (∃ required actual, ReadAs requirement (against.getD h.version) required actual) →
      Version.parse requirement' = Version.parse requirement →
      Version.parse (against'.getD h'.version) = Version.parse (against.getD h.version) →
        (check h' requirement' against' fatal').reports =
          (check h requirement against fatal).reports ∧
        (check h' requirement' against' fatal').ending =
          (check h requirement against fatal).ending) ∧
    ∀ {environment environment' files files' words words' i i' h h' requirement requirement' against
      against' fatal fatal'},
      Reaches environment files words i h → i.command = .check requirement against fatal →
      Reaches environment' files' words' i' h' → i'.command = .check requirement' against' fatal' →
      (∃ required actual, ReadAs requirement (against.getD h.version) required actual) →
      Version.parse requirement' = Version.parse requirement →
      Version.parse (against'.getD h'.version) = Version.parse (against.getD h.version) →
      ∀ input input',
        (run environment' files' input' words').exitCode =
          (run environment files input words).exitCode ∧
        (i'.settings.format = i.settings.format →
          ∃ text,
            (run environment files input words).stdout =
              checkNoteText i.settings h against ++ text ∧
            (run environment' files' input' words').stdout =
              checkNoteText i'.settings h' against' ++ text) := by
  refine ⟨?_, ?_, ?_⟩
  · intro h requirement against fatal required actual hread
    exact ⟨reportOn required actual, reports_check_of_read hread fatal, hread.rendered,
      fun h' fatal' => check_again hread h' fatal fatal'⟩
  · rintro h h' requirement requirement' against against' fatal fatal' ⟨required, actual, hread⟩
      hrequirement htarget
    exact check_of_read_alike hread (hread.of_parse_eq hrequirement htarget) fatal fatal'
  · rintro environment environment' files files' words words' i i' h h' requirement requirement'
      against against' fatal fatal' hreaches hcommand hreaches' hcommand' ⟨required, actual, hread⟩
      hrequirement htarget input input'
    exact run_check_of_read_alike hreaches hcommand hreaches' hcommand' hread
      (hread.of_parse_eq hrequirement htarget) input input'

/-- A requirement with a superfluous zero that is newer than the version it is checked against, and
the check of what is reported about them. -/
theorem check_of_superfluous_zeros :
    let outcome (requirement against : String) : Outcome :=
      run {} (fun _ => .missing) .empty
        (CommandLine.settingsWords ⟨.json, false⟩ ++
          "check" :: CommandLine.checkWords requirement (some against) false)
    (outcome "1.05" "01.4").exitCode = 1 ∧
      (outcome "1.5.0" "1.4.0").exitCode = (outcome "1.05" "01.4").exitCode ∧
      (outcome "1.5.0" "1.4.0").stdout = (outcome "1.05" "01.4").stdout := by
  intro outcome
  have hload : Configuration.load (fun _ => .missing) {} none = .ok {} := rfl
  have hproceeds : LogFilter.Proceeds {} false := LogFilter.proceeds_iff.2 (.inr nofun)
  have hreaches : ∀ requirement against, Reaches {} (fun _ => .missing) _ _ (.ofSettings {}) :=
    fun requirement against =>
      reaches_checkWords (by simp) hload rfl ⟨.json, false⟩ hproceeds requirement (some against) false
  have hread : ReadAs "1.05" "01.4" { components := [1, 5, 0], tag := none }
      { components := [1, 4, 0], tag := none } := ⟨rfl, rfl⟩
  obtain ⟨-, -, hruns⟩ := checks_agree_on_spellings
  obtain ⟨hcode, hstdout⟩ := hruns (hreaches "1.05" "01.4") rfl (hreaches "1.5.0" "1.4.0") rfl
    ⟨_, _, hread⟩ rfl rfl .empty .empty
  refine ⟨?_, hcode, ?_⟩
  · show (run _ _ _ _).exitCode = 1
    rw [exitCode_run_check (hreaches "1.05" "01.4") rfl, exitCode_check_of_read hread]
    rfl
  · -- in a format for programs no note is written
    obtain ⟨text, hfirst, hsecond⟩ := hstdout rfl
    exact hsecond.trans hfirst.symm

end PluginKit.Cli.Program
