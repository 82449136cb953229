import PluginKit.Cli.Invocation
import PluginKit.Proofs.Outcome

/-!
# Words that spell an invocation

Each setting of the output can be asked for by words before the command, whatever the command is,
and each check, each access and each text that is to be read as a version by words behind it:

    ofWords file (settingsWords settings ++ "check" :: checkWords requirement against fatal) =
      .ok { command := .check requirement against fatal, configFile := file, settings }
                                                                                   (ofWords_check)
    ofWords file (settingsWords settings ++ "access" :: accessWords spec records) =
      .ok { command := .access spec records, configFile := file, settings }       (ofWords_access)
    ofWords file (settingsWords settings ++ "parse" :: parseWords text) =
      .ok { command := .parse text, configFile := file, settings }                 (ofWords_parse)

A requirement, the name of a file and a text may begin with a hyphen, so that they stand behind
`--`.
-/

namespace PluginKit.Cli

open Outcome

/-- The name of a format. -/
def Format.name : Format → String
  | .human => "human"
  | .json => "json"
  | .yaml => "yaml"
  | .jsonPretty => "json-pretty"

/-- A file that can be named in the environment is not refused. -/
theorem Stretch.checkFile_eq_ok {file : Option String} (hfile : ∀ path ∈ file, path ≠ "")
    (s : Stretch) : s.checkFile file = .ok () := by
  unfold checkFile
  cases file with
  | none => rfl
  | some path =>
    have haccepts : Parameter.config.accepts path = true := decide_eq_true (hfile path rfl)
    rw [Option.filter_some, haccepts, Bool.not_true, Bool.and_false]
    rfl

/-- An option with its value behind an equals sign in the same word. -/
theorem Stretch.take_attached {s : Stretch} (hliteral : s.literal = false) {name : List Char}
    {parameter : Parameter} (hname : '=' ∉ name)
    (hfind : s.options.find? (·.long? == some (String.ofList name)) = some parameter)
    (hvalue : parameter.takesValue = true) (value : String) :
    s.take (String.ofList ('-' :: '-' :: name ++ ['=']) ++ value) =
      s.takeAttached parameter value := by
  have hne : ∀ c ∈ name, decide (c ≠ '=') = true := by
    rintro c hmem
    exact decide_eq_true fun hc => hname (hc ▸ hmem)
  have hbefore : (name ++ '=' :: value.toList).takeWhile (· ≠ '=') = name := by
    rw [List.takeWhile_append_of_pos hne]
    simp
  have hafter : (name ++ '=' :: value.toList).dropWhile (· ≠ '=') = '=' :: value.toList := by
    rw [List.dropWhile_append_of_pos hne]
    simp
  have hlong : s.takeLong (name ++ '=' :: value.toList) = s.takeAttached parameter value := by
    unfold takeLong
    simp only [hbefore, hafter, hfind, hvalue, String.ofList_toList]
  have htext : (String.ofList ('-' :: '-' :: name ++ ['=']) ++ value).toList =
      '-' :: '-' :: (name ++ '=' :: value.toList) := by
    simp [String.toList_append, String.toList_ofList]
  rw [← hlong]
  unfold take
  rw [hliteral, htext]
  cases name <;> rfl

namespace CommandLine

variable {file : Option String}

/-! ## Words before the command -/

/-- Words before a command that ask for these settings. -/
def settingsWords (settings : OutputSettings) : List String :=
  ["-o", settings.format.name] ++ if settings.quiet then ["-q"] else []

/-- What is given by the words for these settings. -/
def settingsGiven (settings : OutputSettings) : List (Parameter × String) :=
  (.output, settings.format.name) :: if settings.quiet then [(.quiet, "")] else []

/-- The stretch before the command, at its end. -/
def settingsStretch (settings : OutputSettings) : Stretch where
  verb := none
  operands := []
  given := settingsGiven settings

/-- The stretch of the words before the command.  The format is still pending if it comes last. -/
theorem readBefore_settingsWords (settings : OutputSettings) (verb : Verb) (rest : List String)
    (hfile : ∀ path ∈ file, path ≠ "") :
    ∃ s, readBefore .beforeCommand (settingsWords settings ++ verb.name :: rest) =
        .ok (s, some (verb, rest)) ∧
      s.finish file = .ok (settingsStretch settings) := by
  obtain ⟨format, quiet⟩ := settings
  have hfinish : ∀ s : Stretch, s.settle = .ok (settingsStretch ⟨format, quiet⟩) →
      s.finish file = .ok (settingsStretch ⟨format, quiet⟩) := by
    intro s hs
    refine bind_eq_ok.2 ⟨_, hs, check_bind_eq_ok.2 ⟨Stretch.checkFile_eq_ok hfile _, ?_⟩⟩
    cases quiet <;> rfl
  cases quiet with
  | false =>
    refine ⟨{ verb := none, operands := [], pending := some (.output, some format.name) }, ?_,
      hfinish _ ?_⟩
    · cases format <;> cases verb <;> rfl
    · cases format <;> rfl
  | true =>
    refine ⟨settingsStretch ⟨format, true⟩, ?_, hfinish _ rfl⟩
    cases format <;> cases verb <;> rfl

/-- What the words behind a command give, they give behind the words for any settings. -/
theorem ofWords_settingsWords (hfile : ∀ path ∈ file, path ≠ "") (settings : OutputSettings)
    {verb : Verb} {rest : List String} {s after : Stretch} {command : Command}
    (hrest : rest.foldlM Stretch.take (.afterCommand verb) = .ok s)
    (hafter : s.finish file = .ok after) (hcommand : Command.ofStretch? verb after = some command)
    (hcommon : ∀ parameter ∈ Parameter.common, after.value? parameter = none) :
    Invocation.ofWords file (settingsWords settings ++ verb.name :: rest) =
      .ok { command, configFile := file, settings } := by
  obtain ⟨before, hbefore, hfinish⟩ := readBefore_settingsWords settings verb rest hfile
  have hline : CommandLine.ofWords file (settingsWords settings ++ verb.name :: rest) =
      .ok { verb, before := settingsStretch settings, after } :=
    bind_eq_ok.2 ⟨_, hbefore, bind_eq_ok.2 ⟨s, hrest, bind_eq_ok.2 ⟨after, hafter,
      bind_eq_ok.2 ⟨_, hfinish, rfl⟩⟩⟩⟩
  have hvalue : ∀ parameter ∈ Parameter.common,
      CommandLine.value? { verb, before := settingsStretch settings, after } parameter =
        (settingsStretch settings).value? parameter := by
    intro parameter hmem
    unfold CommandLine.value?
    rw [hcommon parameter hmem]
    rfl
  refine bind_eq_ok.2 ⟨_, hline, ?_⟩
  simp only [hcommand]
  unfold CommandLine.format
  rw [hvalue .config (by decide), hvalue .output (by decide), hvalue .quiet (by decide)]
  obtain ⟨format, quiet⟩ := settings
  cases format <;> cases quiet <;> rfl

/-! ## Words behind the command of a check -/

/-- Words that ask for a check. -/
def checkWords (requirement : String) (against : Option String) (fatal : Bool) : List String :=
  (against.map ("--against=" ++ ·)).toList ++ (if fatal then ["--fatal"] else []) ++
    ["--", requirement]

/-- What is given by the options of these words. -/
def checkOptions (against : Option String) (fatal : Bool) : List (Parameter × String) :=
  (against.map (Parameter.against, ·)).toList ++ if fatal then [(.fatal, "")] else []

/-- The stretch behind the command when all its words are read; the requirement is still pending. -/
def checkPending (requirement : String) (against : Option String) (fatal : Bool) : Stretch where
  verb := some .check
  operands := []
  given := checkOptions against fatal
  pending := some (.requirement, some requirement)
  literal := true

/-- The stretch behind the command, at its end. -/
def checkStretch (requirement : String) (against : Option String) (fatal : Bool) : Stretch where
  verb := some .check
  operands := []
  given := checkOptions against fatal ++ [(.requirement, requirement)]
  literal := true

theorem take_against (other : String) :
    (Stretch.afterCommand .check).take ("--against=" ++ other) =
      .ok { Stretch.afterCommand .check with given := [(.against, other)] } := by
  have hoption : "--against=" = String.ofList ('-' :: '-' :: "against".toList ++ ['=']) := rfl
  rw [hoption, Stretch.take_attached rfl (by decide) rfl rfl]
  rfl

theorem foldlM_checkWords (requirement : String) (against : Option String) (fatal : Bool) :
    (checkWords requirement against fatal).foldlM Stretch.take (.afterCommand .check) =
      .ok (checkPending requirement against fatal) := by
  cases against with
  | none => cases fatal <;> rfl
  | some other =>
    refine bind_eq_ok.2 ⟨_, take_against other, ?_⟩
    cases fatal <;> rfl

theorem finish_checkPending (hfile : ∀ path ∈ file, path ≠ "") (requirement : String)
    (against : Option String) (fatal : Bool) :
    (checkPending requirement against fatal).finish file =
      .ok (checkStretch requirement against fatal) := by
  have hsettle : (checkPending requirement against fatal).settle =
      .ok (checkStretch requirement against fatal) := by
    cases against <;> cases fatal <;> rfl
  refine bind_eq_ok.2 ⟨_, hsettle, check_bind_eq_ok.2 ⟨Stretch.checkFile_eq_ok hfile _, ?_⟩⟩
  cases against <;> cases fatal <;> rfl

/-- **Each check can be asked for** in each format, with or without notes. -/
theorem ofWords_check (hfile : ∀ path ∈ file, path ≠ "") (settings : OutputSettings)
    (requirement : String) (against : Option String) (fatal : Bool) :
    Invocation.ofWords file
        (settingsWords settings ++ "check" :: checkWords requirement against fatal) =
      .ok { command := .check requirement against fatal, configFile := file, settings } := by
  have hcommand : Command.ofStretch? .check (checkStretch requirement against fatal) =
      some (.check requirement against fatal) := by
    cases against <;> cases fatal <;> rfl
  have hcommon : ∀ parameter ∈ Parameter.common,
      (checkStretch requirement against fatal).value? parameter = none := by
    unfold Parameter.common
    cases against <;> cases fatal <;> simp [checkStretch, checkOptions, Stretch.value?]
  exact ofWords_settingsWords hfile settings
    (foldlM_checkWords requirement against fatal)
    (finish_checkPending hfile requirement against fatal) hcommand hcommon

/-! ## Words behind the command of an access -/

/-- Words that ask for an access. -/
def accessWords (spec : String) (records : Option String) : List String :=
  ("--spec=" ++ spec) :: (records.map fun path => ["--", path]).getD []

/-- The stretch behind the command when all its words are read; the file of records is still
pending. -/
def accessPending (spec : String) (records : Option String) : Stretch where
  verb := some .access
  operands := if records.isNone then [.records] else []
  given := [(.spec, spec)]
  pending := records.map fun path => (.records, some path)
  literal := records.isSome

/-- The stretch behind the command, at its end. -/
def accessStretch (spec : String) (records : Option String) : Stretch where
  verb := some .access
  operands := if records.isNone then [.records] else []
  given := (.spec, spec) :: (records.map (Parameter.records, ·)).toList
  literal := records.isSome

theorem take_spec (spec : String) :
    (Stretch.afterCommand .access).take ("--spec=" ++ spec) = .ok (accessPending spec none) := by
  have hoption : "--spec=" = String.ofList ('-' :: '-' :: "spec".toList ++ ['=']) := rfl
  rw [hoption, Stretch.take_attached rfl (by decide) rfl rfl]
  rfl

theorem foldlM_accessWords (spec : String) (records : Option String) :
    (accessWords spec records).foldlM Stretch.take (.afterCommand .access) =
      .ok (accessPending spec records) := by
  refine bind_eq_ok.2 ⟨_, take_spec spec, ?_⟩
  cases records <;> rfl

theorem finish_accessPending (hfile : ∀ path ∈ file, path ≠ "") (spec : String)
    {records : Option String} (hrecords : ∀ path ∈ records, path ≠ "") :
    (accessPending spec records).finish file = .ok (accessStretch spec records) := by
  have hsettle : (accessPending spec records).settle = .ok (accessStretch spec records) := by
    cases records with
    | none => rfl
    | some path =>
      have haccepts : Parameter.records.accepts path = true := decide_eq_true (hrecords path rfl)
      show (if !Parameter.records.accepts path then _ else _) = _
      rw [haccepts]
      rfl
  refine bind_eq_ok.2 ⟨_, hsettle, check_bind_eq_ok.2 ⟨Stretch.checkFile_eq_ok hfile _, ?_⟩⟩
  cases records <;> rfl

/-- **Each access can be asked for** in each format, with or without notes, unless the name of its
file is empty. -/
theorem ofWords_access (hfile : ∀ path ∈ file, path ≠ "") (settings : OutputSettings)
    (spec : String) {records : Option String} (hrecords : ∀ path ∈ records, path ≠ "") :
    Invocation.ofWords file (settingsWords settings ++ "access" :: accessWords spec records) =
      .ok { command := .access spec records, configFile := file, settings } := by
  have hcommand : Command.ofStretch? .access (accessStretch spec records) =
      some (.access spec records) := by
    cases records <;> rfl
  have hcommon : ∀ parameter ∈ Parameter.common,
      (accessStretch spec records).value? parameter = none := by
    unfold Parameter.common
    cases records <;> simp [accessStretch, Stretch.value?]
  exact ofWords_settingsWords hfile settings (foldlM_accessWords spec records)
    (finish_accessPending hfile spec hrecords) hcommand hcommon

/-! ## Words behind the command of reading a version -/

/-- Words that ask to read a text as a version. -/
def parseWords (text : String) : List String :=
  ["--", text]

/-- The stretch behind the command when its words are read; the text is still pending. -/
def parsePending (text : String) : Stretch where
  verb := some .parse
  operands := []
  pending := some (.text, some text)
  literal := true

/-- The stretch behind the command, at its end. -/
def parseStretch (text : String) : Stretch where
  verb := some .parse
  operands := []
  given := [(.text, text)]
  literal := true

theorem finish_parsePending (hfile : ∀ path ∈ file, path ≠ "") (text : String) :
    (parsePending text).finish file = .ok (parseStretch text) :=
  bind_eq_ok.2 ⟨parseStretch text, rfl,
    check_bind_eq_ok.2 ⟨Stretch.checkFile_eq_ok hfile _, rfl⟩⟩

/-- **Each text can be asked about** in each format, with or without notes. -/
theorem ofWords_parse (hfile : ∀ path ∈ file, path ≠ "") (settings : OutputSettings)
    (text : String) :
    Invocation.ofWords file (settingsWords settings ++ "parse" :: parseWords text) =
      .ok { command := .parse text, configFile := file, settings } := by
  have hwords : (parseWords text).foldlM Stretch.take (.afterCommand .parse) =
      .ok (parsePending text) := rfl
  have hcommon : ∀ parameter ∈ Parameter.common, (parseStretch text).value? parameter = none := by
    unfold Parameter.common
    simp [parseStretch, Stretch.value?]
  exact ofWords_settingsWords hfile settings hwords (finish_parsePending hfile text) rfl hcommon

end CommandLine

end PluginKit.Cli
