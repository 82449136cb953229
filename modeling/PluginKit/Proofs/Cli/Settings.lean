import PluginKit.Proofs.Cli.Check
import PluginKit.Proofs.Cli.Serialized

/-!
# Settings of the output

What a command says has an order: notes, then its report if it has an answer, then warnings
(`orderly_ofCommand`).  An answer is a success or the news that versions are not compatible.  In a
format for programs this leaves one report exactly if there is an answer, and for people silence
removes the notes and nothing else:

    settings.format ≠ .human → Orderly notes IsReport t →
      t.ending.IsAnswer and one report is written, or ¬ t.ending.IsAnswer and nothing is
                                                                           (Orderly.structured)
    Orderly notes IsReport t → what is written of t =
      what is written of the notes ++ what is written of t in silence           (Orderly.human)

The handlers go by their transcripts on every console, so that the console has no influence on how
they end, unless its output refuses a line (`settings_only_shape_output`).
-/

namespace PluginKit.Cli

/-! ## Messages -/

theorem append_feed_ne_empty (text : String) : text ++ "\n" ≠ "" := by
  intro h
  have hlist := congrArg String.toList h
  rw [String.toList_append] at hlist
  exact List.append_ne_nil_of_right_ne_nil _ (by decide) hlist

/-- Is this a note? -/
def Message.IsNote (m : Message) : Prop :=
  ∃ text, m = .info text

/-- Is this a warning? -/
def Message.IsWarning (m : Message) : Prop :=
  ∃ text, m = .warning text

variable {settings : OutputSettings} {messages : List Message} {color : Option Paint}

theorem writeMessages_eq_empty (h : ∀ m ∈ messages, m.render? settings color = none) :
    writeMessages settings messages color = "" := by
  unfold writeMessages
  rw [List.filterMap_eq_nil_iff.2 h]
  rfl

/-- Notes and warnings are not written in a format for programs. -/
theorem writeMessages_asides (hformat : settings.format ≠ .human)
    (h : ∀ m ∈ messages, m.IsNote ∨ m.IsWarning) : writeMessages settings messages color = "" := by
  refine writeMessages_eq_empty fun m hm => ?_
  rcases h m hm with ⟨text, rfl⟩ | ⟨text, rfl⟩
  · exact if_pos (by simp [hformat])
  · exact if_pos hformat

/-- Silence is about notes alone. -/
theorem writeMessages_quiet (h : ∀ m ∈ messages, ¬ m.IsNote) (format : Format)
    (quiet quiet' : Bool) (color : Option Paint) :
    writeMessages { format, quiet } messages color =
      writeMessages { format, quiet := quiet' } messages color := by
  have hrender : ∀ m ∈ messages, Message.render? { format, quiet } m color =
      Message.render? { format, quiet := quiet' } m color := by
    intro m hm
    cases m with
    | info text => exact absurd ⟨text, rfl⟩ (h _ hm)
    | report document words painted => rfl
    | warning text => rfl
  unfold writeMessages
  rw [List.filterMap_congr hrender]

/-- In silence no note is written. -/
theorem writeMessages_silenced (h : ∀ m ∈ messages, m.IsNote) (format : Format)
    (color : Option Paint) : writeMessages { format, quiet := true } messages color = "" := by
  refine writeMessages_eq_empty fun m hm => ?_
  obtain ⟨text, rfl⟩ := h m hm
  rfl

/-! ## Transcripts in order -/

/-- The command has an answer: it succeeds, or tells that versions are not compatible. -/
def Ending.IsAnswer (ending : Ending) : Prop :=
  ending = .done ∨ ∃ required actual, ending = .failed (.incompatible required actual)

theorem Ending.IsAnswer.exitCode_le {ending : Ending} (h : ending.IsAnswer) :
    ending.exitCode ≤ 1 := by
  rcases h with rfl | ⟨required, actual, rfl⟩
  · exact Nat.zero_le 1
  · exact Nat.le_refl 1

namespace Transcript

/-- After some notes the transcript has one report and then warnings if the command has an answer,
and nothing otherwise. -/
inductive Orderly (notes : List Message) (IsReport : Json → Prop) : Transcript → Prop
  | answered {document : Json} {words : String} {painted : Paint → String}
      {warnings : List Message} {ending : Ending} (hreport : IsReport document)
      (hwarnings : ∀ m ∈ warnings, m.IsWarning) (hending : ending.IsAnswer) :
      Orderly notes IsReport
        { messages := notes ++ .report document words painted :: warnings, ending }
  | unanswered {ending : Ending} (hending : ¬ ending.IsAnswer) :
      Orderly notes IsReport { messages := notes, ending }

variable {notes : List Message} {IsReport : Json → Prop} {t : Transcript}

theorem Orderly.structured (h : Orderly notes IsReport t) (hnotes : ∀ m ∈ notes, m.IsNote)
    (hformat : settings.format ≠ .human) (color : Option Paint) :
    (t.ending.IsAnswer ∧ ∃ document words, IsReport document ∧
      writeMessages settings t.messages color = reportText settings.format document words ++ "\n") ∨
    (¬ t.ending.IsAnswer ∧ writeMessages settings t.messages color = "") := by
  have hsilent : writeMessages settings notes color = "" :=
    writeMessages_asides hformat fun m hm => .inl (hnotes m hm)
  cases h with
  | @answered document words painted warnings ending hreport hwarnings hending =>
    -- the report stands between messages that are not written
    refine .inl ⟨hending, document, (color.map painted).getD words, hreport, ?_⟩
    show writeMessages settings (notes ++ ([.report document words painted] ++ warnings)) color = _
    rw [writeMessages_append, writeMessages_append, hsilent, writeMessages_painted,
      writeMessages_asides hformat fun m hm => .inr (hwarnings m hm), String.empty_append,
      String.append_empty]
  | unanswered hending => exact .inr ⟨hending, hsilent⟩

theorem Orderly.human (h : Orderly notes IsReport t) (hnotes : ∀ m ∈ notes, m.IsNote)
    (color : Option Paint) :
    writeMessages { format := .human, quiet := false } t.messages color =
      writeMessages { format := .human, quiet := false } notes color ++
        writeMessages { format := .human, quiet := true } t.messages color := by
  have hsilent : writeMessages { format := .human, quiet := true } notes color = "" :=
    writeMessages_silenced hnotes .human color
  cases h with
  | @answered document words painted warnings ending hreport hwarnings hending =>
    have hrest : ∀ m ∈ .report document words painted :: warnings, ¬ m.IsNote := by
      rintro m hm ⟨text, rfl⟩
      rcases List.mem_cons.1 hm with hm | hm
      · cases hm
      · obtain ⟨_, hm⟩ := hwarnings _ hm
        cases hm
    rw [writeMessages_append, writeMessages_append, hsilent, String.empty_append,
      writeMessages_quiet hrest .human false true]
  | unanswered hending =>
    show writeMessages _ notes color = writeMessages _ notes color ++ writeMessages _ notes color
    rw [hsilent, String.append_empty]

/-! ## Commands in order -/

/-- What a command says before its report. -/
def notesOf (h : Host) : Command → List Message
  | .check _ against _ => checkNotes h against
  | _ => []

theorem isNote_notesOf (h : Host) (command : Command) :
    ∀ m ∈ notesOf h command, m.IsNote := by
  intro m hm
  cases command with
  | check requirement against fatal =>
    cases against with
    | none => cases hm
    | some other => exact ⟨_, List.mem_singleton.1 hm⟩
  | version | parse | access | error | completions => cases hm

/-- The document that a command reports if it has an answer. -/
inductive Reports (h : Host) (files : FileSystem) (input : ByteArray) : Command → Json → Prop
  | version {parseable : Bool}
      (hparseable : parseable = true ↔ ∃ v, Version.parse h.version = .ok v) :
      Reports h files input .version
        (.obj [("version", .str h.version), ("api_root", .str h.apiRoot),
          ("parseable", .bool parseable)])
  | check {requirement : String} {against : Option String} {fatal : Bool}
      {required actual : Version}
      (hread : ReadAs requirement (against.getD h.version) required actual) :
      Reports h files input (.check requirement against fatal)
        (.obj [("required", .str required.render), ("actual", .str actual.render),
          ("compatible", .bool (actual.satisfies required)),
          ("reasons", .arr ((Version.shortfalls required actual).map fun s => .str s.message))])
  | parse {text : String} {v : Version} (hread : Version.parse text = .ok v) :
      Reports h files input (.parse text)
        (.obj [("input", .str text), ("components", .arr (v.components.map .ofNat)),
          ("tag", (v.tag.map Json.str).getD .null), ("normalized", .str v.render)])
  | access {spec : String} {records : Option String} {values : List Json}
      (hvalues : accessed files input spec records = .ok values) :
      Reports h files input (.access spec records) (.arr values)
  | error {code : UInt32} {message : Option String} :
      Reports h files input (.error code message)
        (.obj [("code", .ofNat code.toNat),
          ("message", .str (message.getD (h.catalog.message code)))])

/-- A transcript that begins with the report. -/
theorem orderly_reported {document : Json} {warnings : List Message} {ending : Ending}
    (hreport : IsReport document) (hwarnings : ∀ m ∈ warnings, m.IsWarning)
    (hending : ending.IsAnswer) (words : String) (painted : Paint → String) :
    Orderly [] IsReport { messages := .report document words painted :: warnings, ending } :=
  List.nil_append (.report document words painted :: warnings) ▸
    .answered hreport hwarnings hending

variable {h : Host} {files : FileSystem} {input : ByteArray}

theorem orderly_version : Orderly [] (Reports h files input .version) (version h) := by
  unfold version
  cases hversion : Version.parse h.version with
  | ok v => exact orderly_reported (.version (by simp [hversion])) (by simp) (.inl rfl) _ _
  | error e =>
    exact orderly_reported (.version (by simp [hversion])) (by simp [Message.IsWarning])
      (.inl rfl) _ _

theorem isAnswer_checkEnding (r : CheckReport) : (checkEnding r).IsAnswer := by
  unfold checkEnding
  split
  · exact .inl rfl
  · exact .inr ⟨r.required, r.actual, rfl⟩

theorem reports_reportOn {requirement : String} {against : Option String} {fatal : Bool}
    {required actual : Version}
    (hread : ReadAs requirement (against.getD h.version) required actual) :
    Reports h files input (.check requirement against fatal) (reportOn required actual).toJson := by
  have hreasons : textsToJson (reportOn required actual).reasons =
      .arr ((Version.shortfalls required actual).map fun s => .str s.message) :=
    congrArg Json.arr List.map_map
  unfold CheckReport.toJson
  rw [hreasons]
  exact .check hread

theorem orderly_check (requirement : String) (against : Option String) (fatal : Bool) :
    Orderly (checkNotes h against) (Reports h files input (.check requirement against fatal))
      (check h requirement against fatal) := by
  by_cases hread : ∃ required actual, ReadAs requirement (against.getD h.version) required actual
  · obtain ⟨required, actual, hread⟩ := hread
    rw [check_of_read hread]
    exact .answered (reports_reportOn hread) (by simp) (isAnswer_checkEnding _)
  · obtain ⟨ending, hcheck, hcode, -⟩ := check_of_refused hread fatal
    rw [hcheck]
    -- the exit code is 2 or 70, which no answer has
    refine .unanswered fun hanswer => ?_
    have hle := hanswer.exitCode_le
    rw [hcode] at hle
    cases fatal <;> simp at hle

theorem orderly_parse (text : String) :
    Orderly [] (Reports h files input (.parse text)) (parse text) := by
  unfold parse
  cases hparse : Version.parse text with
  | ok v => exact orderly_reported (.parse hparse) (by simp) (.inl rfl) _ _
  | error e => exact .unanswered (by simp [Ending.IsAnswer])

/-- A fault of the library is no news about versions. -/
theorem mapError_fault_ne_incompatible {α : Type} (x : Except Fault α) (required actual : String) :
    x.mapError Failure.fault ≠ .error (.incompatible required actual) := by
  intro h
  obtain ⟨_, -, hfault⟩ := Outcome.mapError_eq_error.1 h
  cases hfault

theorem accessorOfText_ne_incompatible (spec required actual : String) :
    accessorOfText spec ≠ .error (.incompatible required actual) := by
  intro h
  unfold accessorOfText at h
  split at h
  · cases h
  · exact mapError_fault_ne_incompatible _ _ _ h

theorem recordsOfFile_ne_incompatible (files : FileSystem) (path required actual : String) :
    recordsOfFile files path ≠ .error (.incompatible required actual) := by
  intro h
  unfold recordsOfFile at h
  split at h
  · cases h
  · cases h
  · split at h <;> cases h

theorem recordsOfInput_ne_incompatible (input : ByteArray) (required actual : String) :
    recordsOfInput input ≠ .error (.incompatible required actual) := by
  intro h
  unfold recordsOfInput at h
  split at h
  · cases h
  · split at h <;> cases h

theorem accessed_ne_incompatible (files : FileSystem) (input : ByteArray) (spec : String)
    (records : Option String) (required actual : String) :
    accessed files input spec records ≠ .error (.incompatible required actual) := by
  intro h
  unfold accessed at h
  rcases Outcome.bind_eq_error.1 h with h | ⟨accessor, -, h⟩
  · exact accessorOfText_ne_incompatible _ _ _ h
  cases records with
  | some path =>
    rcases Outcome.bind_eq_error.1 h with h | ⟨records, -, h⟩
    · exact recordsOfFile_ne_incompatible _ _ _ _ h
    · exact mapError_fault_ne_incompatible _ _ _ h
  | none =>
    rcases Outcome.bind_eq_error.1 h with h | ⟨records, -, h⟩
    · exact recordsOfInput_ne_incompatible _ _ _ h
    · exact mapError_fault_ne_incompatible _ _ _ h

theorem orderly_access (spec : String) (records : Option String) :
    Orderly [] (Reports h files input (.access spec records))
      (access files input spec records) := by
  unfold access
  cases haccessed : accessed files input spec records with
  | ok values => exact orderly_reported (.access haccessed) (by simp) (.inl rfl) _ _
  | error failure =>
    refine .unanswered ?_
    rintro (hdone | ⟨required, actual, heq⟩)
    · cases hdone
    · cases heq
      exact accessed_ne_incompatible _ _ _ _ _ _ haccessed

theorem orderly_error (code : UInt32) (message : Option String) :
    Orderly [] (Reports h files input (.error code message)) (error h code message) := by
  have hreport : Reports h files input (.error code message)
      ((message.map (Incident.ofMessage code)).getD (h.incident code)).toJson := by
    cases message <;> exact .error
  exact orderly_reported hreport (by simp) (.inl rfl) _ _

theorem orderly_ofCommand (h : Host) (files : FileSystem) (input : ByteArray) {command : Command}
    (hcommand : ∀ shell, command ≠ .completions shell) :
    Orderly (notesOf h command) (Reports h files input command)
      (ofCommand h files input command) := by
  cases command with
  | version => exact orderly_version
  | check requirement against fatal => exact orderly_check requirement against fatal
  | parse text => exact orderly_parse text
  | access spec records => exact orderly_access spec records
  | error code message => exact orderly_error code message
  | completions shell => exact absurd rfl (hcommand shell)

/-- The line that a command writes for people before its report. -/
def noteLine (h : Host) (command : Command) (color : Option Paint) : String :=
  match command with
  | .check _ (some other) _ =>
    (color.map (· .note "ℹ")).getD "INFO:" ++ " " ++
      s!"Checking against {other} instead of {h.version}" ++ "\n"
  | _ => ""

theorem writeMessages_notesOf (h : Host) (command : Command) (color : Option Paint) :
    writeMessages { format := .human, quiet := false } (notesOf h command) color =
      noteLine h command color := by
  cases command with
  | check requirement against fatal =>
    cases against with
    | none => rfl
    | some other =>
      refine (writeMessages_info _ _ color).trans ?_
      cases color <;> rfl
  | version | parse | access | error | completions => rfl

end Transcript

/-! ## Handlers on consoles -/

namespace Handler

open Transcript

variable {command : Command}

/-- The handler of a command on a console that takes everything. -/
theorem ran_ofCommand (texts : Texts) (h : Host) (files : FileSystem) (input : ByteArray)
    (hcommand : ∀ shell, command ≠ .completions shell) {console : Console}
    (haccepts : console.Accepts) :
    let t := Transcript.ofCommand h files input command
    (ofCommand texts h files input command).ran console =
      (t.ending, writeMessages console.settings t.messages console.color) := by
  rw [ofCommand_eq_replay texts h files input hcommand, ran_replay haccepts]

theorem writes_yaml_iff {document : Json} {words text : String}
    (h : Writes document words .yaml text) :
    text = String.ofList (Yaml.write document) ↔ Kept document := by
  cases h
  rw [String.ofList_inj, trimEnd_write_feed_iff]

/-- **The console has an influence on what is written only.**  A handler ends in the same way on all
consoles, but for an output that refuses a line.  In a format for programs the output is nothing, or
one report if the command succeeds or tells that versions are not compatible; for people, silence
removes the line before a check against another version and nothing else.  In YAML the report is
written up to the blank characters at its end, which is its text exactly if a text that stands last
keeps its end. -/
theorem settings_only_shape_output (texts : Texts) (h : Host) (files : FileSystem)
    (input : ByteArray) (hcommand : ∀ shell, command ≠ .completions shell) :
    let ran (console : Console) : Ending × String :=
      (ofCommand texts h files input command).ran console
    (∃ ending, (∀ console, console.Accepts → (ran console).1 = ending) ∧
      ∀ console, (ran console).1 = ending ∨
        ∃ reason, (ran console).1 = .failed (.unwritable reason)) ∧
    (∀ console, console.Accepts → console.settings.format ≠ .human →
      ((ran console).2 = "" ∨
        ∃ document words, Reports h files input command document ∧
          Writes document words console.settings.format (ran console).2 ∧
          (console.settings.format = .yaml →
            ((ran console).2 = String.ofList (Yaml.write document) ↔ Kept document))) ∧
      ((ran console).2 ≠ "" ↔ (ran console).1 = .done ∨
        ∃ required actual, (ran console).1 = .failed (.incompatible required actual))) ∧
    ∀ color put, let people (quiet : Bool) : Console := ⟨⟨.human, quiet⟩, color, put⟩
      (people false).Accepts →
        (ran (people false)).2 = noteLine h command color ++ (ran (people true)).2 := by
  intro ran
  have horder : Orderly (notesOf h command) (Reports h files input command)
      (Transcript.ofCommand h files input command) := orderly_ofCommand h files input hcommand
  have hnotes := isNote_notesOf h command
  refine ⟨⟨(Transcript.ofCommand h files input command).ending, ?_, ?_⟩, ?_, ?_⟩
  · intro console haccepts
    exact congrArg Prod.fst (ran_ofCommand texts h files input hcommand haccepts)
  · intro console
    have hending := ending_ran_replay console (Transcript.ofCommand h files input command)
    rwa [← ofCommand_eq_replay texts h files input hcommand] at hending
  · intro console haccepts hformat
    have hran : ran console = _ := ran_ofCommand texts h files input hcommand haccepts
    rw [hran]
    obtain ⟨hanswer, document, words, hreport, hwritten⟩ | ⟨hanswer, hsilent⟩ :=
      horder.structured hnotes hformat console.color
    · simp only [hwritten]
      have hwrites := writes_reportText console.settings.format document words
      refine ⟨.inr ⟨document, words, hreport, hwrites, fun hyaml => ?_⟩, fun _ => hanswer, fun _ =>
        append_feed_ne_empty _⟩
      rw [hyaml] at hwrites ⊢
      exact writes_yaml_iff hwrites
    · rw [hsilent]
      exact ⟨.inl rfl, fun hne => absurd rfl hne, fun h => absurd h hanswer⟩
  · intro color put people haccepts
    have hquiet : (people true).Accepts := haccepts
    have hopen : ran (people false) = _ := ran_ofCommand texts h files input hcommand haccepts
    have hsilent : ran (people true) = _ := ran_ofCommand texts h files input hcommand hquiet
    rw [hopen, hsilent, ← writeMessages_notesOf]
    exact horder.human hnotes color

/-- A check of a requirement that is too new fails on each console, and only for people who are not
to be left in silence there is a line before its report. -/
theorem early_check_on_consoles :
    let ran (settings : OutputSettings) : Ending × String :=
      (ofCommand {} (.ofSettings {}) (fun _ => .missing) .empty
        (.check "1.5" (some "1.4") false)).ran { settings }
    (∀ settings, (ran settings).1 = .failed (.incompatible "1.5.0" "1.4.0")) ∧
      (ran ⟨.json, false⟩).2 ≠ "" ∧
      (ran ⟨.human, false⟩).2 =
        "INFO: Checking against 1.4 instead of 0.7.0-dev\n" ++ (ran ⟨.human, true⟩).2 := by
  intro ran
  have hcommand : ∀ shell, Command.check "1.5" (some "1.4") false ≠ .completions shell := by simp
  have haccepts (settings : OutputSettings) : Console.Accepts { settings } := fun _ _ => rfl
  obtain ⟨⟨ending, hending, -⟩, hstructured, hpeople⟩ :=
    settings_only_shape_output {} (.ofSettings {}) (fun _ => .missing) .empty hcommand
  have hearly : ending = .failed (.incompatible "1.5.0" "1.4.0") :=
    (hending _ (haccepts ⟨.human, true⟩)).symm
  have hnote : noteLine (.ofSettings {}) (.check "1.5" (some "1.4") false) none =
      "INFO: Checking against 1.4 instead of 0.7.0-dev\n" := by
    decide +kernel
  refine ⟨fun settings => (hending _ (haccepts settings)).trans hearly, ?_, ?_⟩
  · obtain ⟨-, hanswer⟩ := hstructured _ (haccepts ⟨.json, false⟩) nofun
    exact hanswer.2 (.inr ⟨_, _, (hending _ (haccepts _)).trans hearly⟩)
  · rw [← hnote]
    exact hpeople none _ (haccepts _)

/-- A report in YAML whose last text ends in a no-break space is not written as it is serialized,
although the command succeeds. -/
theorem blank_end_of_tag_lost :
    let ran : Ending × String :=
      (ofCommand {} (.ofSettings {}) (fun _ => .missing) .empty (.parse "1.2-x\u00a0")).ran
        { settings := ⟨.yaml, false⟩ }
    ran.1 = .done ∧ ran.2 ≠ "" ∧
      ∀ document,
        Reports (.ofSettings {}) (fun _ => .missing) .empty (.parse "1.2-x\u00a0") document →
          ran.2 ≠ String.ofList (Yaml.write document) := by
  have hwritten : ((ofCommand {} (.ofSettings {}) (fun _ => .missing) .empty
      (.parse "1.2-x\u00a0")).ran { settings := ⟨.yaml, false⟩ }).2 =
        "input: 1.2-x\u00a0\ncomponents:\n- 1\n- 2\n- 0\ntag: x\u00a0\nnormalized: 1.2.0-x\n" := by
    decide +kernel
  simp only [hwritten]
  refine ⟨rfl, by decide, fun document hreports => ?_⟩
  cases hreports with
  | @parse _ v hread =>
    have hserialized : Yaml.write (ParseReport.ofVersion "1.2-x\u00a0" v).toJson =
        ("input: 1.2-x\u00a0\ncomponents:\n- 1\n- 2\n- 0\n" ++
          "tag: x\u00a0\nnormalized: 1.2.0-x\u00a0\n").toList := by
      cases hread
      decide +kernel
    show _ ≠ String.ofList (Yaml.write (ParseReport.ofVersion "1.2-x\u00a0" v).toJson)
    rw [hserialized, String.ofList_toList]
    decide

end Handler

end PluginKit.Cli
