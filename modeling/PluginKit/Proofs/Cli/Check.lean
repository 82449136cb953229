import PluginKit.Proofs.Cli.Output
import PluginKit.Proofs.Cli.Run
import PluginKit.Proofs.Cli.Spelling
import PluginKit.Proofs.Host.Requirement
import PluginKit.Proofs.Version.Shortfall

/-!
# Checks on the command line

A check asks the host for its verdict, which reads both versions, and then reads them once more for
the report.  If both can be read, the verdict and the report agree and the check ends by the
verdict; otherwise it ends without a report, and only then it matters whether that is fatal:

    both are read → checkAfter messages h requirement fatal =
      the messages with the report on both, and the ending of that report   (checkAfter_of_read)
    one is refused → checkAfter messages h requirement fatal =
      the messages, and an ending with exit code 2 or 70                    (checkAfter_of_refused)
-/

namespace PluginKit.Cli.Transcript

variable {h : Host} {requirement : String} {required actual : Version} {messages : List Message}

/-- The texts of a requirement and of the version that it is checked against are read as these
versions. -/
structure ReadAs (requirement target : String) (required actual : Version) : Prop where
  required : Version.parse requirement = .ok required
  actual : Version.parse target = .ok actual

theorem ReadAs.unique {target : String} {required actual required' actual' : Version}
    (h : ReadAs requirement target required actual)
    (h' : ReadAs requirement target required' actual') : required = required' ∧ actual = actual' :=
  ⟨Except.ok.inj (h.required.symm.trans h'.required), Except.ok.inj (h.actual.symm.trans h'.actual)⟩

/-! ## Reports among messages -/

/-- The reports of a transcript, each as a document and in words. -/
def reports (t : Transcript) : List (Json × String) :=
  t.messages.filterMap fun
    | .report document words _ => some (document, words)
    | _ => none

/-! ## The version that is checked against -/

/-- The host that a check asks. -/
def checkHost (h : Host) : Option String → Host
  | none => h
  | some other => h.withVersion other

/-- What is said before a check. -/
def checkNotes (h : Host) : Option String → List Message
  | none => []
  | some other => [.info s!"Checking against {other} instead of {h.version}"]

/-- The text of what is said before a check. -/
def checkNoteText (settings : OutputSettings) (h : Host) (against : Option String)
    (color : Option Paint := none) : String :=
  match against with
  | none => ""
  | some other => noteText settings s!"Checking against {other} instead of {h.version}" color

theorem check_eq_checkAfter (h : Host) (requirement : String) (against : Option String)
    (fatal : Bool) :
    check h requirement against fatal =
      checkAfter (checkNotes h against) (checkHost h against) requirement fatal := by
  cases against <;> rfl

theorem version_checkHost (h : Host) (against : Option String) :
    (checkHost h against).version = against.getD h.version := by
  cases against <;> rfl

theorem writeMessages_checkNotes (settings : OutputSettings) (h : Host) (against : Option String)
    (color : Option Paint) :
    writeMessages settings (checkNotes h against) color =
      checkNoteText settings h against color := by
  cases against with
  | none => rfl
  | some other => exact writeMessages_info settings _ color

/-! ## Verdicts -/

theorem verdict_of_read (hread : ReadAs requirement h.version required actual) (fatal : Bool) :
    verdict h requirement fatal = .ok (actual.satisfies required) := by
  have hcheck : h.check requirement = .ok (actual.satisfies required) :=
    Host.check_eq_ok.2 ⟨actual, required, hread.actual, hread.required, rfl⟩
  unfold verdict
  cases fatal with
  | false => exact Outcome.mapError_eq_ok.2 hcheck
  | true => exact Outcome.mapError_eq_ok.2 (Host.require_eq_ok.2 hcheck)

/-- Without a verdict the check ends by the fault of the host, or by the fatal error that it is. -/
theorem verdict_of_refused
    (hrefused : ¬ ∃ required actual, ReadAs requirement h.version required actual)
    (fatal : Bool) :
    ∃ ending, verdict h requirement fatal = .error ending ∧
      ending.exitCode = (if fatal then 70 else 2) ∧ ∀ e, ending ≠ .failed (.version e) := by
  cases hcheck : h.check requirement with
  | ok compatible =>
    obtain ⟨actual, required, hactual, hrequired, -⟩ := Host.check_eq_ok.1 hcheck
    exact absurd ⟨required, actual, hrequired, hactual⟩ hrefused
  | error fault =>
    cases fatal with
    | false =>
      refine ⟨.failed (.fault fault), ?_, rfl, fun e he => by cases he⟩
      exact Outcome.mapError_eq_error.2 ⟨fault, hcheck, rfl⟩
    | true =>
      refine ⟨.halted (Host.haltOfFault fault), ?_, rfl, fun e he => by cases he⟩
      exact Outcome.mapError_eq_error.2
        ⟨_, Outcome.mapError_eq_error.2 ⟨fault, hcheck, rfl⟩, rfl⟩

/-! ## Checks -/

theorem checkReport_of_read (hread : ReadAs requirement h.version required actual)
    (compatible : Bool) :
    checkReport h requirement compatible = .ok (.ofVersions required actual compatible) :=
  Outcome.bind_eq_ok.2 ⟨required, hread.required, Outcome.bind_eq_ok.2 ⟨actual, hread.actual, rfl⟩⟩

/-- The report on two versions that can be read. -/
def reportOn (required actual : Version) : CheckReport :=
  .ofVersions required actual (actual.satisfies required)

/-- The message that reports. -/
def reportMessage (r : CheckReport) : Message :=
  .report r.toJson r.words r.paintedWords

theorem reasons_reportOn :
    (reportOn required actual).reasons = [] ↔ actual.satisfies required = true := by
  rw [← Version.shortfalls_eq_nil_iff]
  exact List.map_eq_nil_iff

theorem checkAfter_of_read (hread : ReadAs requirement h.version required actual) (fatal : Bool) :
    checkAfter messages h requirement fatal =
      { messages := messages ++ [reportMessage (reportOn required actual)]
        ending := checkEnding (reportOn required actual) } := by
  unfold checkAfter
  simp only [verdict_of_read hread, checkReport_of_read hread]
  rfl

theorem checkAfter_of_refused
    (hrefused : ¬ ∃ required actual, ReadAs requirement h.version required actual)
    (fatal : Bool) :
    ∃ ending, checkAfter messages h requirement fatal = { messages, ending } ∧
      ending.exitCode = (if fatal then 70 else 2) ∧ ∀ e, ending ≠ .failed (.version e) := by
  obtain ⟨ending, hverdict, hcode⟩ := verdict_of_refused hrefused fatal
  refine ⟨ending, ?_, hcode⟩
  unfold checkAfter
  rw [hverdict]

theorem exitCode_checkEnding (r : CheckReport) :
    (checkEnding r).exitCode = if r.compatible then 0 else 1 := by
  unfold checkEnding
  cases r.compatible <;> rfl

theorem checkEnding_ne_version (r : CheckReport) (e : Version.Error) :
    checkEnding r ≠ .failed (.version e) := by
  unfold checkEnding
  cases r.compatible <;> simp

/-! ## Reports in words -/

theorem intercalate_cons_eq_join (separator first : String) (rest : List String) :
    separator.intercalate (first :: rest) = first ++ String.join (rest.map (separator ++ ·)) := by
  induction rest generalizing first with
  | nil => rw [String.intercalate_singleton, List.map_nil, String.join_nil, String.append_empty]
  | cons next rest ih =>
    rw [String.intercalate_cons_cons, ih, List.map_cons, String.join_cons, String.append_assoc,
      String.append_assoc]

/-- A report in words has the verdict on both versions, and then a line for each reason. -/
theorem paintedWords_eq (r : CheckReport) (paint : Paint) :
    r.paintedWords paint =
      r.required ++ " is " ++
        (if r.compatible then paint .good "compatible" else paint .bad "incompatible") ++
        " with " ++ r.actual ++ String.join (r.reasons.map ("\n  • " ++ ·)) := by
  unfold CheckReport.paintedWords CheckReport.verdict
  rw [intercalate_cons_eq_join, List.map_map]
  have hline : (fun text => "\n" ++ text) ∘ (fun text => "  • " ++ text) =
      fun text : String => "\n  • " ++ text := by
    funext text
    show "\n" ++ ("  • " ++ text) = _
    rw [← String.append_assoc]
    rfl
  rw [hline]
  cases r.compatible <;> rfl

/-! ## Whole checks -/

variable {against : Option String}

theorem check_of_read (hread : ReadAs requirement (against.getD h.version) required actual)
    (fatal : Bool) :
    check h requirement against fatal =
      { messages := checkNotes h against ++ [reportMessage (reportOn required actual)]
        ending := checkEnding (reportOn required actual) } := by
  rw [← version_checkHost] at hread
  rw [check_eq_checkAfter, checkAfter_of_read hread]

theorem check_of_refused
    (hrefused : ¬ ∃ required actual, ReadAs requirement (against.getD h.version) required actual)
    (fatal : Bool) :
    ∃ ending, check h requirement against fatal = { messages := checkNotes h against, ending } ∧
      ending.exitCode = (if fatal then 70 else 2) ∧ ∀ e, ending ≠ .failed (.version e) := by
  rw [← version_checkHost] at hrefused
  rw [check_eq_checkAfter]
  exact checkAfter_of_refused hrefused fatal

theorem reports_check_of_read
    (hread : ReadAs requirement (against.getD h.version) required actual) (fatal : Bool) :
    (check h requirement against fatal).reports =
      [((reportOn required actual).toJson, (reportOn required actual).words)] := by
  rw [check_of_read hread]
  cases against <;> rfl

theorem reports_check_of_refused
    (hrefused : ¬ ∃ required actual, ReadAs requirement (against.getD h.version) required actual)
    (fatal : Bool) : (check h requirement against fatal).reports = [] := by
  obtain ⟨ending, hcheck, -⟩ := check_of_refused hrefused fatal
  rw [hcheck]
  cases against <;> rfl

/-- The second reading of the versions does not fail. -/
theorem ending_check_ne_version (h : Host) (requirement : String) (against : Option String)
    (fatal : Bool) (e : Version.Error) :
    (check h requirement against fatal).ending ≠ .failed (.version e) := by
  by_cases hread : ∃ required actual, ReadAs requirement (against.getD h.version) required actual
  · obtain ⟨required, actual, hread⟩ := hread
    rw [check_of_read hread]
    exact checkEnding_ne_version _ e
  · obtain ⟨ending, hcheck, -, hne⟩ := check_of_refused hread fatal
    rw [hcheck]
    exact hne e

theorem exitCode_check_of_read
    (hread : ReadAs requirement (against.getD h.version) required actual) (fatal : Bool) :
    (check h requirement against fatal).ending.exitCode =
      if actual.satisfies required then 0 else 1 := by
  rw [check_of_read hread]
  exact exitCode_checkEnding _

theorem exitCode_check_of_refused
    (hrefused : ¬ ∃ required actual, ReadAs requirement (against.getD h.version) required actual)
    (fatal : Bool) :
    (check h requirement against fatal).ending.exitCode = if fatal then 70 else 2 := by
  obtain ⟨ending, hcheck, hcode, -⟩ := check_of_refused hrefused fatal
  rw [hcheck]
  exact hcode

/-- The exit code tells the three outcomes of a check apart. -/
theorem exitCode_check (h : Host) (requirement : String) (against : Option String) (fatal : Bool) :
    let code := (check h requirement against fatal).ending.exitCode
    let Read := ReadAs requirement (against.getD h.version)
    (code = 0 ↔ ∃ required actual, Read required actual ∧ actual.satisfies required = true) ∧
    (code = 1 ↔ ∃ required actual, Read required actual ∧ actual.satisfies required = false) ∧
    (code = (if fatal then 70 else 2) ↔ ¬ ∃ required actual, Read required actual) := by
  intro code Read
  by_cases hread : ∃ required actual, Read required actual
  · obtain ⟨required, actual, hread⟩ := hread
    have hcode : code = if actual.satisfies required then 0 else 1 :=
      exitCode_check_of_read hread fatal
    have hverdict : ∀ b,
        (∃ required actual, Read required actual ∧ actual.satisfies required = b) ↔
          actual.satisfies required = b := by
      intro b
      constructor
      · rintro ⟨required', actual', hread', hb⟩
        obtain ⟨rfl, rfl⟩ := hread.unique hread'
        exact hb
      · intro hb
        exact ⟨required, actual, hread, hb⟩
    have hexists : ∃ required actual, Read required actual := ⟨required, actual, hread⟩
    rw [hverdict, hverdict, hcode]
    simp only [hexists, not_true, iff_false]
    cases actual.satisfies required <;> cases fatal <;> simp
  · have hcode : code = if fatal then 70 else 2 := exitCode_check_of_refused hread fatal
    have hnone : ∀ b, ¬ ∃ required actual, Read required actual ∧ actual.satisfies required = b := by
      rintro b ⟨required, actual, hboth, -⟩
      exact hread ⟨required, actual, hboth⟩
    simp only [hnone, iff_false, hcode, true_iff]
    refine ⟨?_, ?_, hread⟩ <;> cases fatal <;> decide

end PluginKit.Cli.Transcript

/-! ## Runs of the program -/

namespace PluginKit.Cli.Program

open Transcript

variable {environment : Environment} {files : FileSystem} {words : List String} {i : Invocation}
  {h : Host} {requirement : String} {against : Option String} {fatal : Bool}

/-- A run of a check goes by its transcript. -/
theorem run_check_eq (hreaches : Reaches environment files words i h)
    (hcommand : i.command = .check requirement against fatal) (input : ByteArray) :
    let t := check h requirement against fatal
    (run environment files input words).exitCode = t.ending.exitCode ∧
      (run environment files input words).stdout = writeMessages i.settings t.messages := by
  have hscript : ∀ shell, i.command ≠ .completions shell := by simp [hcommand]
  rw [hreaches.exitCode_run hscript, hreaches.stdout_run hscript, hcommand]
  exact ⟨rfl, rfl⟩

theorem stdout_run_check_of_read (hreaches : Reaches environment files words i h)
    (hcommand : i.command = .check requirement against fatal) (input : ByteArray)
    {required actual : Version}
    (hread : ReadAs requirement (against.getD h.version) required actual) :
    (run environment files input words).stdout =
      checkNoteText i.settings h against ++
        (reportText i.settings.format (reportOn required actual).toJson
          (reportOn required actual).words ++ "\n") := by
  rw [(run_check_eq hreaches hcommand input).2, check_of_read hread, writeMessages_append,
    writeMessages_checkNotes]
  exact congrArg _ (writeMessages_report i.settings _ _ _)

theorem stdout_run_check_of_refused (hreaches : Reaches environment files words i h)
    (hcommand : i.command = .check requirement against fatal) (input : ByteArray)
    (hrefused : ¬ ∃ required actual, ReadAs requirement (against.getD h.version) required actual) :
    (run environment files input words).stdout = checkNoteText i.settings h against := by
  obtain ⟨ending, hcheck, -⟩ := check_of_refused hrefused fatal
  rw [(run_check_eq hreaches hcommand input).2, hcheck, writeMessages_checkNotes]

theorem exitCode_run_check (hreaches : Reaches environment files words i h)
    (hcommand : i.command = .check requirement against fatal) (input : ByteArray) :
    (run environment files input words).exitCode =
      (check h requirement against fatal).ending.exitCode :=
  (run_check_eq hreaches hcommand input).1

/-- Whether a refused version is fatal has no influence on what is written, nor on the exit code
where no version is refused. -/
theorem run_check_of_fatal (hreaches : Reaches environment files words i h)
    (hcommand : i.command = .check requirement against fatal) {words' : List String}
    {i' : Invocation} {fatal' : Bool} (hreaches' : Reaches environment files words' i' h)
    (hcommand' : i'.command = .check requirement against fatal')
    (hsettings : i'.settings = i.settings) (input : ByteArray) :
    (run environment files input words').stdout = (run environment files input words).stdout ∧
      ((∃ required actual, ReadAs requirement (against.getD h.version) required actual) →
        (run environment files input words').exitCode =
          (run environment files input words).exitCode) := by
  by_cases hread : ∃ required actual, ReadAs requirement (against.getD h.version) required actual
  · obtain ⟨required, actual, hread⟩ := hread
    refine ⟨?_, fun _ => ?_⟩
    · rw [stdout_run_check_of_read hreaches' hcommand' input hread, hsettings,
        stdout_run_check_of_read hreaches hcommand input hread]
    · rw [exitCode_run_check hreaches' hcommand', exitCode_check_of_read hread,
        exitCode_run_check hreaches hcommand, exitCode_check_of_read hread]
  · refine ⟨?_, fun hboth => absurd hboth hread⟩
    rw [stdout_run_check_of_refused hreaches' hcommand' input hread, hsettings,
      stdout_run_check_of_refused hreaches hcommand input hread]

/-- The handler of a check on any console that takes everything. -/
theorem ran_check (texts : Texts) (files : FileSystem) (input : ByteArray) (h : Host)
    (requirement : String) (against : Option String) (fatal : Bool) {console : Console}
    (haccepts : console.Accepts) :
    let t := check h requirement against fatal
    (Handler.ofCommand texts h files input (.check requirement against fatal)).ran console =
      (t.ending, writeMessages console.settings t.messages console.color) := by
  rw [Handler.ofCommand_eq_replay texts h files input (by simp), Handler.ran_replay haccepts]
  rfl

/-- **A check ends by its verdict and reports on it.**  It reports exactly if both versions can be
read, and then the verdict, the reasons and the exit code agree; the second reading never fails.
Whether a refused version is fatal has an influence on nothing else.  On other consoles, such as a
terminal with colours, the handler ends alike, and the words of the report have the verdict set
off. -/
theorem run_check_agrees (hreaches : Reaches environment files words i h)
    (hcommand : i.command = .check requirement against fatal) (input : ByteArray) :
    let target := against.getD h.version
    let t := Transcript.ofCommand h files input i.command
    let outcome := run environment files input words
    let ran (console : Console) : Ending × String :=
      (Handler.ofCommand environment.texts h files input i.command).ran console
    let note := checkNoteText i.settings h against
    (outcome.exitCode = 0 ↔ ∃ required actual, ReadAs requirement target required actual ∧
      actual.satisfies required = true) ∧
    (outcome.exitCode = 1 ↔ ∃ required actual, ReadAs requirement target required actual ∧
      actual.satisfies required = false) ∧
    (outcome.exitCode = (if fatal then 70 else 2) ↔
      ¬ ∃ required actual, ReadAs requirement target required actual) ∧
    (∀ required actual, ReadAs requirement target required actual →
      ∃ r : CheckReport, t.reports = [(r.toJson, r.words)] ∧
        (∃ text, Writes r.toJson r.words i.settings.format text ∧ outcome.stdout = note ++ text) ∧
        r.required = required.render ∧ r.actual = actual.render ∧
        r.compatible = actual.satisfies required ∧ (r.reasons = [] ↔ r.compatible = true) ∧
        r.reasons = (Version.shortfalls required actual).map (·.message) ∧
        r.toJson = .obj [("required", .str r.required), ("actual", .str r.actual),
          ("compatible", .bool r.compatible), ("reasons", .arr (r.reasons.map .str))] ∧
        (∀ paint, r.paintedWords paint =
          r.required ++ " is " ++
            (if r.compatible then paint .good "compatible" else paint .bad "incompatible") ++
            " with " ++ r.actual ++ String.join (r.reasons.map ("\n  • " ++ ·))) ∧
        r.words = r.paintedWords .plain ∧
        ∀ console, console.Accepts →
          ∃ text, Writes r.toJson ((console.color.map r.paintedWords).getD r.words)
              console.settings.format text ∧
            (ran console).2 = checkNoteText console.settings h against console.color ++ text) ∧
    ((¬ ∃ required actual, ReadAs requirement target required actual) →
      t.reports = [] ∧ outcome.stdout = note ∧
        ∀ console, console.Accepts →
          (ran console).2 = checkNoteText console.settings h against console.color) ∧
    (∀ e, t.ending ≠ .failed (.version e)) ∧
    (∀ console, console.Accepts → (ran console).1 = t.ending) ∧
    ∀ words' i' fatal', Reaches environment files words' i' h →
      i'.command = .check requirement against fatal' → i'.settings = i.settings →
        (run environment files input words').stdout = outcome.stdout ∧
        ((∃ required actual, ReadAs requirement target required actual) →
          (run environment files input words').exitCode = outcome.exitCode) := by
  intro target t outcome ran note
  have ht : t = check h requirement against fatal := by
    show Transcript.ofCommand h files input i.command = _
    rw [hcommand]
    rfl
  have hcode : outcome.exitCode = (check h requirement against fatal).ending.exitCode :=
    exitCode_run_check hreaches hcommand input
  have hran {console : Console} (haccepts : console.Accepts) : ran console =
      ((check h requirement against fatal).ending, writeMessages console.settings
        (check h requirement against fatal).messages console.color) := by
    show (Handler.ofCommand environment.texts h files input i.command).ran console = _
    rw [hcommand]
    exact ran_check environment.texts files input h requirement against fatal haccepts
  obtain ⟨hzero, hone, hrefused⟩ := exitCode_check h requirement against fatal
  rw [ht, hcode]
  refine ⟨hzero, hone, hrefused, ?_, ?_, fun e => ending_check_ne_version _ _ _ _ e,
    fun console haccepts => congrArg Prod.fst (hran haccepts), ?_⟩
  · intro required actual hread
    refine ⟨reportOn required actual, reports_check_of_read hread fatal,
      ⟨_, writes_reportText _ _ _, stdout_run_check_of_read hreaches hcommand input hread⟩, rfl,
      rfl, rfl, reasons_reportOn, rfl, rfl, paintedWords_eq _, rfl, ?_⟩
    intro console haccepts
    refine ⟨_, writes_reportText _ _ _, ?_⟩
    rw [hran haccepts, check_of_read hread, writeMessages_append, writeMessages_checkNotes]
    exact congrArg (checkNoteText console.settings h against console.color ++ ·)
      (writeMessages_painted console.settings _ _ _ console.color)
  · intro hnone
    refine ⟨reports_check_of_refused hnone fatal,
      stdout_run_check_of_refused hreaches hcommand input hnone, fun console haccepts => ?_⟩
    obtain ⟨ending, hcheck, -⟩ := check_of_refused hnone fatal
    rw [hran haccepts, hcheck]
    exact writeMessages_checkNotes console.settings h against console.color
  · intro words' i' fatal' hreaches' hcommand' hsettings
    rw [← hcode]
    exact run_check_of_fatal hreaches hcommand hreaches' hcommand' hsettings input

/-- With a configuration that can be used, every check is reached by some words. -/
theorem reaches_checkWords {configuration : Configuration}
    (hfile : ∀ path ∈ environment.configFile, path ≠ "")
    (hload : Configuration.load files environment environment.configFile = .ok configuration)
    (husable : configuration.ensureUsable = .ok ()) (settings : OutputSettings)
    (hproceeds : LogFilter.Proceeds environment settings.quiet) (requirement : String)
    (against : Option String) (fatal : Bool) :
    Reaches environment files
      (CommandLine.settingsWords settings ++
        "check" :: CommandLine.checkWords requirement against fatal)
      { command := .check requirement against fatal
        configFile := environment.configFile
        settings }
      (.ofSettings configuration.library) where
  ofWords := CommandLine.ofWords_check hfile settings requirement against fatal
  configuration := ⟨configuration, hload, husable, rfl⟩
  proceeds := hproceeds

/-- Without any file, checks against a version with a superfluous zero: one that succeeds, one of a
newer requirement in silence, and one of a requirement that is refused. -/
theorem run_check_without_files :
    let outcome (settings : OutputSettings) (requirement : String) : Outcome :=
      run {} (fun _ => .missing) .empty
        (CommandLine.settingsWords settings ++
          "check" :: CommandLine.checkWords requirement (some "01.4") true)
    (outcome ⟨.json, false⟩ "1.2").exitCode = 0 ∧
      (outcome ⟨.json, false⟩ "1.2").stdout =
        "\x7b\"required\":\"1.2.0\",\"actual\":\"1.4.0\",\"compatible\":true,\"reasons\":[]\x7d\n" ∧
      (outcome ⟨.human, true⟩ "1.5").exitCode = 1 ∧
      (outcome ⟨.human, true⟩ "1.5").stdout =
        "1.5.0 is incompatible with 1.4.0\n" ++
          "  • Required minor version (5) is newer than available (4)\n" ∧
      (outcome ⟨.json, false⟩ "1.x").exitCode = 70 ∧ (outcome ⟨.json, false⟩ "1.x").stdout = "" := by
  intro outcome
  have hreaches (settings : OutputSettings) (requirement : String) :
      Reaches {} (fun _ => .missing) _ _ (.ofSettings {}) :=
    have hload : Configuration.load (fun _ => .missing) {} none = .ok {} := rfl
    have hproceeds : LogFilter.Proceeds {} settings.quiet := LogFilter.proceeds_iff.2 (.inr nofun)
    reaches_checkWords (by simp) hload rfl settings hproceeds requirement (some "01.4") true
  have hread : ReadAs "1.2" "01.4" { components := [1, 2, 0], tag := none }
      { components := [1, 4, 0], tag := none } := ⟨rfl, rfl⟩
  have hnewer : ReadAs "1.5" "01.4" { components := [1, 5, 0], tag := none }
      { components := [1, 4, 0], tag := none } := ⟨rfl, rfl⟩
  have hrefused : ¬ ∃ required actual, ReadAs "1.x" "01.4" required actual := by
    rintro ⟨required, actual, ⟨h, -⟩⟩
    cases h
  obtain ⟨hzero, -, -, hreport, -⟩ := run_check_agrees (hreaches ⟨.json, false⟩ "1.2") rfl .empty
  obtain ⟨-, hone, -, hreport', -⟩ := run_check_agrees (hreaches ⟨.human, true⟩ "1.5") rfl .empty
  obtain ⟨-, -, hcode, -, hnone, -⟩ := run_check_agrees (hreaches ⟨.json, false⟩ "1.x") rfl .empty
  refine ⟨hzero.2 ⟨_, _, hread, by decide⟩, ?_, hone.2 ⟨_, _, hnewer, by decide⟩, ?_,
    hcode.2 hrefused, (hnone hrefused).2.1⟩
  · obtain ⟨r, -, ⟨text, htext, hstdout⟩, hrequired, hactual, hcompatible, hreasons, -⟩ :=
      hreport _ _ hread
    obtain ⟨required, actual, compatible, reasons⟩ := r
    obtain rfl : compatible = true := hcompatible
    obtain rfl : reasons = [] := hreasons.2 rfl
    obtain rfl : required = "1.2.0" := hrequired
    obtain rfl : actual = "1.4.0" := hactual
    cases htext
    exact hstdout
  · obtain ⟨r, -, ⟨text, htext, hstdout⟩, hrequired, hactual, hcompatible, -, hreasons, -, hpainted,
      hwords, -⟩ := hreport' _ _ hnewer
    rw [hpainted, hrequired, hactual, hcompatible, hreasons] at hwords
    cases htext
    rw [hwords] at hstdout
    exact hstdout

end PluginKit.Cli.Program
