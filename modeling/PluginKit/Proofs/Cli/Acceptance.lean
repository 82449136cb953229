import PluginKit.Proofs.Cli.Check
import PluginKit.Proofs.Json.Draft
import PluginKit.Version.Json

/-!
# Which texts are accepted as versions

Documents, settings, hosts and commands accept the same texts as versions, namely those that
`Version.parse` reads:

    s.validateVersion = .ok () ↔ ∃ v, Version.parse s.version = .ok v         (validateVersion_iff)
    h.check blames the library for no requirement ↔ ∃ v, Version.parse h.version = .ok v
                                                                              (check_library_iff)
    (run environment files input words).exitCode = 0 ↔ ∃ v, Version.parse text = .ok v
                                                                                      (run_parse)

Valid settings are therefore told by what a host with them requires
(`Settings.validate_iff_of_requirements`).
-/

namespace PluginKit

open Outcome

/-! ## Documents -/

theorem Version.ofJson_str_iff {text : String} :
    (∃ v, Version.ofJson (.str text) = .ok v) ↔ ∃ v, Version.parse text = .ok v :=
  exists_congr fun _ => mapError_eq_ok

/-- A text is read back from the JSON text that is written for it. -/
theorem Json.parse?_render_str (text : String) :
    Json.parse? (Json.str text).render = some (.str text) := by
  have hdraft : (Json.str text).draft? = some (.str (Json.escape text.toList)) := rfl
  unfold Json.parse? Json.render
  rw [String.toList_ofList, Json.ofText?_compact hdraft, Option.bind_some]
  show (Json.Draft.text? _).map Json.str = _
  rw [Json.text?_escape]
  rfl

/-! ## Settings -/

theorem Settings.validateVersion_iff {s : Settings} :
    s.validateVersion = .ok () ↔ ∃ v, Version.parse s.version = .ok v := by
  unfold validateVersion
  cases Version.parse s.version <;> simp

theorem Settings.validateApiRoot_iff {s : Settings} :
    s.validateApiRoot = .ok () ↔ s.apiRoot.toList.head? = some '/' := by
  unfold validateApiRoot
  split
  · next h => simp [h]
  · next h => simp [h]

/-! ## Hosts -/

namespace Host

variable {h : Host}

/-- The version of a host is at fault for no requirement, or for all of them. -/
theorem check_library_iff :
    (∀ requirement value cause,
        h.check requirement ≠ .error (.invalidVersion .library value cause)) ↔
      ∃ v, Version.parse h.version = .ok v := by
  constructor
  · intro hcheck
    cases hversion : Version.parse h.version with
    | ok v => exact ⟨v, rfl⟩
    | error cause =>
      have hfault : h.check "" = .error (.invalidVersion .library h.version cause) :=
        check_eq_error.2 (.inl ⟨cause, hversion, rfl⟩)
      exact absurd hfault (hcheck "" h.version cause)
  · rintro ⟨v, hv⟩ requirement value cause hfault
    rcases check_eq_error.1 hfault with ⟨e, he, -⟩ | ⟨_, _, _, _, heq⟩
    · rw [hv] at he
      cases he
    · cases heq

/-- A host with a version that can be read halts on the requirements that cannot be read. -/
theorem require_halts_iff {v : Version} (hversion : Version.parse h.version = .ok v)
    (requirement : String) :
    (∃ halt, h.require requirement = .error halt) ↔
      ¬ ∃ required, Version.parse requirement = .ok required := by
  constructor
  · rintro ⟨halt, hhalt⟩ ⟨required, hrequired⟩
    rcases require_eq_error.1 hhalt with ⟨⟨cause, hcause⟩, -⟩ | ⟨-, ⟨cause, hcause⟩, -⟩
    · rw [hversion] at hcause
      cases hcause
    · rw [hrequired] at hcause
      cases hcause
  · intro hnone
    cases hrequirement : Version.parse requirement with
    | ok required => exact absurd ⟨required, hrequirement⟩ hnone
    | error cause =>
      exact ⟨_, require_eq_error.2 (.inr ⟨⟨v, hversion⟩, ⟨cause, hrequirement⟩, rfl⟩)⟩

theorem exists_require_eq_error {cause : Version.Error}
    (hversion : Version.parse h.version = .error cause) (requirement : String) :
    ∃ halt, h.require requirement = .error halt :=
  ⟨_, require_eq_error.2 (.inl ⟨⟨cause, hversion⟩, rfl⟩)⟩

end Host

/-- Valid settings are told by what a host with them does. -/
theorem Settings.validate_iff_of_requirements {s : Settings} :
    s.validate = .ok () ↔ s.apiRoot.toList.head? = some '/' ∧
      ∀ requirement, (∃ halt, (Host.ofSettings s).require requirement = .error halt) ↔
        ¬ ∃ required, Version.parse requirement = .ok required := by
  have hvalidate : s.validate = .ok () ↔
      (∃ v, Version.parse s.version = .ok v) ∧ s.apiRoot.toList.head? = some '/' := by
    unfold validate
    rw [check_bind_eq_ok, validateVersion_iff, validateApiRoot_iff]
  rw [hvalidate, and_comm]
  refine and_congr_right fun _ => ?_
  constructor
  · rintro ⟨v, hv⟩
    exact fun requirement => Host.require_halts_iff (h := .ofSettings s) hv requirement
  · intro hhalts
    cases hversion : Version.parse s.version with
    | ok v => exact ⟨v, rfl⟩
    | error cause =>
      -- a host without a version halts on every requirement, also on one that can be read
      have hreadable : Version.parse "1.2" = .ok { components := [1, 2, 0], tag := none } := rfl
      have hhalt := Host.exists_require_eq_error (h := .ofSettings s) hversion "1.2"
      exact absurd ⟨_, hreadable⟩ ((hhalts "1.2").1 hhalt)

/-! ## Commands -/

namespace Cli.Transcript

theorem ending_parse_iff {text : String} :
    (parse text).ending = .done ↔ ∃ v, Version.parse text = .ok v := by
  unfold parse
  cases Version.parse text <;> simp [failed]

theorem exitCode_parse (text : String) :
    ((parse text).ending.exitCode = 0 ↔ ∃ v, Version.parse text = .ok v) ∧
      ((parse text).ending.exitCode = 2 ↔ ¬ ∃ v, Version.parse text = .ok v) := by
  unfold parse
  cases Version.parse text <;> simp [failed, Ending.exitCode, Failure.exitCode]

/-- The report on the library says whether its version can be read. -/
theorem reports_version_iff {h : Host} :
    let report : VersionReport := ⟨h.version, h.apiRoot, true⟩
    (version h).reports = [(report.toJson, report.words)] ↔
      ∃ v, Version.parse h.version = .ok v := by
  intro report
  unfold version
  cases Version.parse h.version <;> simp [reports, report, VersionReport.toJson]

end Cli.Transcript

/-! ## Runs of the program -/

namespace Cli.Program

variable {environment : Environment} {files : FileSystem} {words : List String} {i : Invocation}
  {h : Host} {text : String}

/-- A run for a text ends well exactly if the text is a version, and otherwise says nothing. -/
theorem run_parse (hreaches : Reaches environment files words i h)
    (hcommand : i.command = .parse text) (input : ByteArray) :
    let outcome := run environment files input words
    (outcome.exitCode = 0 ↔ ∃ v, Version.parse text = .ok v) ∧
    (∀ v, Version.parse text = .ok v →
      outcome.stdout = reportText i.settings.format (ParseReport.ofVersion text v).toJson
        (ParseReport.ofVersion text v).words ++ "\n") ∧
    ((¬ ∃ v, Version.parse text = .ok v) → outcome.exitCode = 2 ∧ outcome.stdout = "") := by
  intro outcome
  have hscript : ∀ shell, i.command ≠ .completions shell := by simp [hcommand]
  have hcode : outcome.exitCode = (Transcript.parse text).ending.exitCode := by
    show (run environment files input words).exitCode = _
    rw [hreaches.exitCode_run hscript, hcommand]
    rfl
  have hstdout : outcome.stdout = writeMessages i.settings (Transcript.parse text).messages := by
    show (run environment files input words).stdout = _
    rw [hreaches.stdout_run hscript, hcommand]
    rfl
  obtain ⟨hzero, htwo⟩ := Transcript.exitCode_parse text
  rw [hcode, hstdout]
  refine ⟨hzero, ?_, fun hnone => ⟨htwo.2 hnone, ?_⟩⟩
  · intro v hv
    unfold Transcript.parse
    rw [hv]
    exact writeMessages_report i.settings _ _ _
  · unfold Transcript.parse
    cases hparse : Version.parse text with
    | ok v => exact absurd ⟨v, hparse⟩ hnone
    | error cause => rfl

/-- With a configuration that can be used, every text is reached by some words. -/
theorem reaches_parseWords {configuration : Configuration}
    (hfile : ∀ path ∈ environment.configFile, path ≠ "")
    (hload : Configuration.load files environment environment.configFile = .ok configuration)
    (husable : configuration.ensureUsable = .ok ()) (settings : OutputSettings)
    (hproceeds : LogFilter.Proceeds environment settings.quiet) (text : String) :
    Reaches environment files
      (CommandLine.settingsWords settings ++ "parse" :: CommandLine.parseWords text)
      { command := .parse text, configFile := environment.configFile, settings }
      (.ofSettings configuration.library) where
  ofWords := CommandLine.ofWords_parse hfile settings text
  configuration := ⟨configuration, hload, husable, rfl⟩
  proceeds := hproceeds

end Cli.Program

open Cli Cli.Program

/-- **A text is a version everywhere or nowhere.**  What `Version.parse` reads is accepted in
documents, on the command line in every format, in settings, in the report on the library and by
every host.  Settings are valid exactly if their location of the API begins with a slash and a host
with them halts on those requirements only that cannot be read. -/
theorem accepted_alike (text : String) (s : Settings) (h : Host) :
    let IsVersion : Prop := ∃ v, Version.parse text = .ok v
    let configured : Settings := { s with version := text }
    let report : VersionReport := { version := text, apiRoot := s.apiRoot, parseable := true }
    ((∃ v, Version.ofJson (.str text) = .ok v) ↔ IsVersion) ∧
    ((∃ value v, Json.parse? (Json.str text).render = some value ∧
      Version.ofJson value = .ok v) ↔ IsVersion) ∧
    ((Transcript.parse text).ending = .done ↔ IsVersion) ∧
    (∀ environment files words i host input, Reaches environment files words i host →
      i.command = .parse text →
        ((run environment files input words).exitCode = 0 ↔ IsVersion)) ∧
    (configured.validateVersion = .ok () ↔ IsVersion) ∧
    ((Transcript.version (.ofSettings configured)).reports = [(report.toJson, report.words)] ↔
      IsVersion) ∧
    ((∀ requirement value cause, (h.withVersion text).check requirement ≠
      .error (.invalidVersion .library value cause)) ↔ IsVersion) ∧
    (s.validate = .ok () ↔ s.apiRoot.toList.head? = some '/' ∧
      ∀ requirement, (∃ halt, (Host.ofSettings s).require requirement = .error halt) ↔
        ¬ ∃ required, Version.parse requirement = .ok required) := by
  intro IsVersion configured report
  have htext : (∃ value v, Json.parse? (Json.str text).render = some value ∧
      Version.ofJson value = .ok v) ↔ IsVersion := by
    rw [Json.parse?_render_str]
    constructor
    · rintro ⟨value, v, hvalue, hv⟩
      cases hvalue
      exact Version.ofJson_str_iff.1 ⟨v, hv⟩
    · intro hversion
      obtain ⟨v, hv⟩ := Version.ofJson_str_iff.2 hversion
      exact ⟨_, v, rfl, hv⟩
  exact ⟨Version.ofJson_str_iff, htext, Transcript.ending_parse_iff,
    fun environment files words i host input hreaches hcommand =>
      (run_parse hreaches hcommand input).1,
    configured.validateVersion_iff, Transcript.reports_version_iff (h := .ofSettings configured),
    Host.check_library_iff (h := h.withVersion text), Settings.validate_iff_of_requirements⟩

/-- A text with three parts and one with a letter in it, each read without any file. -/
theorem run_parse_without_files :
    let words (text : String) : List String := ["-o", "yaml", "parse", "--", text]
    let code (text : String) : Nat := (run {} (fun _ => .missing) .empty (words text)).exitCode
    code "1.2.3" = 0 ∧ code "1.x" ≠ 0 ∧ (∃ v, Version.ofJson (.str "1.2.3") = .ok v) ∧
      ¬ ∃ v, Version.ofJson (.str "1.x") = .ok v := by
  intro words code
  have hload : Configuration.load (fun _ => .missing) {} none = .ok {} := rfl
  have hproceeds : LogFilter.Proceeds {} false := LogFilter.proceeds_iff.2 (.inr nofun)
  have hreaches : ∀ text, Reaches {} (fun _ => .missing) (words text)
      { command := .parse text, configFile := none,
        settings := { format := .yaml, quiet := false } } (.ofSettings {}) :=
    fun text => reaches_parseWords (by simp) hload rfl ⟨.yaml, false⟩ hproceeds text
  obtain ⟨hjson, -, -, hcode, -⟩ := accepted_alike "1.2.3" {} default
  obtain ⟨hjson', -, -, hcode', -⟩ := accepted_alike "1.x" {} default
  have hversion : ∃ v, Version.parse "1.2.3" = .ok v := ⟨⟨[1, 2, 3], none⟩, rfl⟩
  have hnone : ¬ ∃ v, Version.parse "1.x" = .ok v := by
    rintro ⟨v, hv⟩
    cases hv
  exact ⟨(hcode _ _ _ _ _ .empty (hreaches "1.2.3") rfl).2 hversion,
    mt (hcode' _ _ _ _ _ .empty (hreaches "1.x") rfl).1 hnone, hjson.2 hversion, mt hjson'.1 hnone⟩

end PluginKit
