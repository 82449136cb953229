import PluginKit.Cli.Handler
import PluginKit.Proofs.Cli.Output
import PluginKit.Proofs.Outcome

/-!
# Handlers and their transcripts

A handler says the messages of its transcript on the console, one after the other, and then ends as
the transcript does.  This holds on every console, also on one that refuses a line:

    ofCommand texts h files input command = replay (Transcript.ofCommand h files input command)
                                                                            (ofCommand_eq_replay)

On an output that takes everything nothing of the console has an influence on the ending, and what
is written are the messages:

    console.Accepts → (replay t).ran console =
      (t.ending, writeMessages console.settings t.messages console.color)           (ran_replay)
-/

namespace PluginKit.Cli.Handler

variable {α β : Type}

/-- Says a message on the console. -/
def say : Message → Handler Unit
  | .info text => info text
  | .report document words painted =>
    result document fun color => (color.map painted).getD words
  | .warning text => warning text

/-- Ends a command. -/
def endWith : Ending → Handler Unit
  | .done => pure ()
  | ending => throw ending

/-- Says the messages of a transcript in their order, and ends as it does. -/
def replay (t : Transcript) : Handler Unit :=
  t.messages.foldr (fun m rest => do say m; rest) (endWith t.ending)

/-! ## Each handler -/

theorem say_done (m : Message) : (do say m; endWith .done) = say m :=
  bind_pure_unit

theorem result_painted (document : Json) (painted : Paint → String) :
    (result document fun color => painted (color.getD .plain)) =
      say (.report document (painted .plain) painted) := by
  have hwords : (fun color : Option Paint => painted (color.getD .plain)) =
      fun color => (color.map painted).getD (painted .plain) := by
    funext color
    cases color <;> rfl
  rw [hwords]
  rfl

theorem result_words (document : Json) (words : String) :
    (result document fun _ => words) = say (.report document words) := by
  have hwords : (fun _ : Option Paint => words) =
      fun color => (color.map fun _ => words).getD words := by
    funext color
    cases color <;> rfl
  rw [hwords]
  rfl

theorem version_eq_replay (h : Host) : version h = replay (Transcript.version h) := by
  let report (parseable : Bool) : VersionReport := ⟨h.version, h.apiRoot, parseable⟩
  have hresult (parseable : Bool) := result_painted (report parseable).toJson
    (report parseable).paintedWords
  unfold version Transcript.version
  cases Version.parse h.version with
  | ok v => exact congrArg (· >>= fun _ => pure ()) (hresult true)
  | error e =>
    refine (congrArg (· >>= fun _ => _) (hresult false)).trans ?_
    exact congrArg (say _ >>= ·) (funext fun _ => (say_done (.warning _)).symm)

theorem parse_eq_replay (text : String) : parse text = replay (Transcript.parse text) := by
  unfold parse Transcript.parse
  cases Version.parse text with
  | ok v => exact (result_words _ _).trans (say_done _).symm
  | error e => rfl

theorem error_eq_replay (h : Host) (code : UInt32) (message : Option String) :
    error h code message = replay (Transcript.error h code message) := by
  unfold error Transcript.error
  cases message with
  | none => exact (result_painted _ _).trans (say_done _).symm
  | some message => exact (result_painted _ _).trans (say_done _).symm

theorem orFail_bind (x : Except Failure α) (f : α → Except Failure β) :
    orFail (x >>= f) = (orFail x >>= fun a => orFail (f a)) := by
  cases x <;> rfl

theorem access_eq_orFail (files : FileSystem) (input : ByteArray) (spec : String)
    (records : Option String) :
    access files input spec records =
      (orFail (Transcript.accessed files input spec records) >>= fun values =>
        result (.arr values) fun _ => valuesWords values) := by
  unfold access Transcript.accessed
  cases records <;> simp only [orFail_bind, bind_assoc]

theorem access_eq_replay (files : FileSystem) (input : ByteArray) (spec : String)
    (records : Option String) :
    access files input spec records = replay (Transcript.access files input spec records) := by
  rw [access_eq_orFail]
  unfold Transcript.access
  cases Transcript.accessed files input spec records with
  | ok values => exact (result_words _ _).trans (say_done _).symm
  | error failure => rfl

/-! ### Checks -/

theorem verdict_ne_done (h : Host) (requirement : String) (fatal : Bool) :
    Transcript.verdict h requirement fatal ≠ .error .done := by
  unfold Transcript.verdict
  intro hdone
  cases fatal with
  | false => obtain ⟨_, -, hending⟩ := Outcome.mapError_eq_error.1 hdone; cases hending
  | true => obtain ⟨_, -, hending⟩ := Outcome.mapError_eq_error.1 hdone; cases hending

/-- A check of the version of a host. -/
theorem check_none_eq_replay (h : Host) (requirement : String) (fatal : Bool) :
    check h requirement none fatal = replay (Transcript.checkAfter [] h requirement fatal) := by
  unfold check Transcript.checkAfter Transcript.checkReport
  cases hverdict : Transcript.verdict h requirement fatal with
  | error ending =>
    cases ending with
    | done => exact absurd hverdict (verdict_ne_done h requirement fatal)
    | failed failure => simp only [pure_bind, hverdict]; rfl
    | halted halt => simp only [pure_bind, hverdict]; rfl
  | ok compatible =>
    simp only [pure_bind, hverdict]
    cases Version.parse requirement with
    | error e => rfl
    | ok required =>
      cases Version.parse h.version with
      | error e => rfl
      | ok actual =>
        let r := CheckReport.ofVersions required actual compatible
        refine (congrArg (· >>= fun _ => _) (result_painted r.toJson r.paintedWords)).trans ?_
        cases compatible <;> rfl

/-- A check of another version is a check of a host with this version, after a note. -/
theorem check_some (h : Host) (requirement other : String) (fatal : Bool) :
    check h requirement (some other) fatal = (do
      info s!"Checking against {other} instead of {h.version}"
      check (h.withVersion other) requirement none fatal) := by
  unfold check
  simp only [pure_bind]

theorem checkAfter_eq_append (messages : List Message) (h : Host) (requirement : String)
    (fatal : Bool) :
    Transcript.checkAfter messages h requirement fatal =
      { messages := messages ++ (Transcript.checkAfter [] h requirement fatal).messages
        ending := (Transcript.checkAfter [] h requirement fatal).ending } := by
  unfold Transcript.checkAfter
  cases Transcript.verdict h requirement fatal with
  | error ending => simp only [List.append_nil]
  | ok compatible =>
    cases hreport : Transcript.checkReport h requirement compatible with
    | error e => simp only [hreport, List.append_nil]
    | ok r => simp only [hreport, List.nil_append]

theorem check_eq_replay (h : Host) (requirement : String) (against : Option String)
    (fatal : Bool) :
    check h requirement against fatal =
      replay (Transcript.check h requirement against fatal) := by
  cases against with
  | none => exact check_none_eq_replay h requirement fatal
  | some other =>
    rw [check_some, check_none_eq_replay]
    exact (congrArg replay (checkAfter_eq_append [.info _] (h.withVersion other) requirement
      fatal)).symm

/-! ## All handlers -/

/-- **Handlers go by their transcripts**, whatever the console is and whichever lines it refuses. -/
theorem ofCommand_eq_replay (texts : Texts) (h : Host) (files : FileSystem) (input : ByteArray)
    {command : Command} (hcommand : ∀ shell, command ≠ .completions shell) :
    ofCommand texts h files input command =
      replay (Transcript.ofCommand h files input command) := by
  cases command with
  | version => exact version_eq_replay h
  | check requirement against fatal => exact check_eq_replay h requirement against fatal
  | parse text => exact parse_eq_replay text
  | access spec records => exact access_eq_replay files input spec records
  | error code message => exact error_eq_replay h code message
  | completions shell => exact absurd rfl (hcommand shell)

/-! ## What is written -/

variable {console : Console} {written after : String}

/-- A message is written as a line, or not at all. -/
theorem say_eq (m : Message) :
    say m = (do
      let console ← read
      match m.render? console.settings console.color with
      | none => pure ()
      | some text => writeLine text) := by
  cases m with
  | info text =>
    refine congrArg (read >>= ·) (funext fun console => ?_)
    simp only [Message.render?]
    split
    · rfl
    · cases console.color <;> rfl
  | report document words painted =>
    refine congrArg (read >>= ·) (funext fun console => ?_)
    simp only [Message.render?]
    cases console.settings.format.write? document with
    | some text => rfl
    | none => cases console.color <;> rfl
  | warning text =>
    refine congrArg (read >>= ·) (funext fun console => ?_)
    simp only [Message.render?]
    split
    · rfl
    · cases console.color <;> rfl

theorem runOn_bind_of_ok {x : Handler α} {value : α}
    (h : x.runOn console written = (.ok value, after)) (f : α → Handler β) :
    (x >>= f).runOn console written = (f value).runOn console after := by
  have hx : (x.run console).run.run written = (.ok value, after) := h
  unfold runOn
  simp only [ReaderT.run_bind, ExceptT.run_bind, StateT.run_bind, hx]
  rfl

theorem runOn_bind_of_error {x : Handler α} {ending : Ending}
    (h : x.runOn console written = (.error ending, after)) (f : α → Handler β) :
    (x >>= f).runOn console written = (.error ending, after) := by
  have hx : (x.run console).run.run written = (.error ending, after) := h
  unfold runOn
  simp only [ReaderT.run_bind, ExceptT.run_bind, StateT.run_bind, hx]
  rfl

/-- A line is taken or refused by the output of the console. -/
theorem runOn_writeLine (console : Console) (text written : String) :
    (writeLine text).runOn console written =
      match console.put written (text ++ "\n") with
      | (written, none) => (.ok (), written)
      | (written, some reason) => (.error (.failed (.unwritable reason)), written) := by
  have hleave : (writeLine text).runOn console written =
      (leave (console.put written (text ++ "\n"))).runOn console written := rfl
  rw [hleave]
  rcases console.put written (text ++ "\n") with ⟨state, _ | reason⟩ <;> rfl

theorem runOn_say (console : Console) (m : Message) (written : String) :
    (say m).runOn console written =
      match m.render? console.settings console.color with
      | none => (.ok (), written)
      | some text => (writeLine text).runOn console written := by
  have hread : runOn read console written = (.ok console, written) := rfl
  rw [say_eq, runOn_bind_of_ok hread]
  cases m.render? console.settings console.color <;> rfl

theorem runOn_say_of_accepts (haccepts : console.Accepts) (m : Message) (written : String) :
    (say m).runOn console written =
      (.ok (), written ++ writeMessages console.settings [m] console.color) := by
  rw [runOn_say, writeMessages_singleton]
  cases m.render? console.settings console.color with
  | none =>
    simp only [Option.map_none, Option.getD_none, String.append_empty]
  | some text =>
    have hput := haccepts written (text ++ "\n")
    simp only [runOn_writeLine, hput, Option.map_some, Option.getD_some]

/-- A message is said, or the output refuses it. -/
theorem runOn_say_cases (console : Console) (m : Message) (written : String) :
    (∃ after, (say m).runOn console written = (.ok (), after)) ∨
      ∃ reason after,
        (say m).runOn console written = (.error (.failed (.unwritable reason)), after) := by
  rw [runOn_say]
  cases m.render? console.settings console.color with
  | none => exact .inl ⟨_, rfl⟩
  | some text =>
    simp only [runOn_writeLine]
    rcases console.put written (text ++ "\n") with ⟨after, _ | reason⟩
    · exact .inl ⟨after, rfl⟩
    · exact .inr ⟨reason, after, rfl⟩

/-! ## Whole transcripts -/

/-- An output that takes everything is left with the messages. -/
theorem runOn_replay (haccepts : console.Accepts) (messages : List Message) (ending : Ending)
    (written : String) :
    (replay { messages, ending }).runOn console written =
      (endWith ending).runOn console
        (written ++ writeMessages console.settings messages console.color) := by
  induction messages generalizing written with
  | nil =>
    have hnone : writeMessages console.settings [] console.color = "" := rfl
    rw [hnone, String.append_empty]
    rfl
  | cons m messages ih =>
    have hrest := runOn_bind_of_ok (runOn_say_of_accepts haccepts m written)
      fun _ => replay { messages, ending }
    rw [ih, String.append_assoc, ← writeMessages_append] at hrest
    exact hrest

/-- What is said may be refused, but it has no influence on the ending otherwise. -/
theorem runOn_replay_cases (console : Console) (messages : List Message) (ending : Ending)
    (written : String) :
    (∃ after, (replay { messages, ending }).runOn console written =
      (endWith ending).runOn console after) ∨
      ∃ reason after, (replay { messages, ending }).runOn console written =
        (.error (.failed (.unwritable reason)), after) := by
  induction messages generalizing written with
  | nil => exact .inl ⟨written, rfl⟩
  | cons m messages ih =>
    rcases runOn_say_cases console m written with ⟨after, hsay⟩ | ⟨reason, after, hsay⟩
    · have hrest := runOn_bind_of_ok hsay fun _ => replay { messages, ending }
      rcases ih after with ⟨last, hlast⟩ | ⟨reason, last, hlast⟩
      · exact .inl ⟨last, hrest.trans hlast⟩
      · exact .inr ⟨reason, last, hrest.trans hlast⟩
    · exact .inr ⟨reason, after, runOn_bind_of_error hsay fun _ => replay { messages, ending }⟩

theorem ran_eq_of_runOn {x : Handler Unit} {ending : Ending} {after : String}
    (h : x.runOn console "" = (endWith ending).runOn console after) :
    x.ran console = (ending, after) := by
  unfold ran
  rw [h]
  cases ending <;> rfl

/-- On an output that takes everything a transcript ends as it is to end, and its messages are
written. -/
theorem ran_replay (haccepts : console.Accepts) (t : Transcript) :
    (replay t).ran console =
      (t.ending, writeMessages console.settings t.messages console.color) := by
  have hrun := runOn_replay haccepts t.messages t.ending ""
  rw [String.empty_append] at hrun
  exact ran_eq_of_runOn hrun

/-- On any output a transcript ends as it is to end, or with a line that is refused. -/
theorem ending_ran_replay (console : Console) (t : Transcript) :
    ((replay t).ran console).1 = t.ending ∨
      ∃ reason, ((replay t).ran console).1 = .failed (.unwritable reason) := by
  rcases runOn_replay_cases console t.messages t.ending "" with
    ⟨after, hrun⟩ | ⟨reason, after, hrun⟩
  · exact .inl (congrArg Prod.fst (ran_eq_of_runOn hrun))
  · refine .inr ⟨reason, ?_⟩
    unfold ran
    rw [hrun]

end PluginKit.Cli.Handler
