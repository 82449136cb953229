import PluginKit.Proofs.Cli.Run

/-!
# Which configuration is in force

The configuration is that of the selected file, or else of the winner: the first place whose file
can be read as text and decoded.  What stands at the places behind the winner has no influence, and
neither has what stands before it as long as no configuration comes of it:

    load files environment none = .ok c ↔
      (∃ before path after, candidates environment = before ++ path :: after ∧
        Wins environment.decoders files before path c) ∨
      Barren environment.decoders files (candidates environment) ∧ c = {}      (load_none_eq_ok)
    Wins decoders files before path c → files' path = files path →
      Barren decoders files' before → Wins decoders files' before path c         (Wins.of_agree)

Several places may lead to one file: if the program is run in the home directory, `.tangelo.json` is
the second place and the last one too, and a change of it behind the winner is a change before it
(`home_is_current_directory`).  So a change is one of a file, and it counts for all paths that lead
there (`Wins.change`).

A winner that cannot be used is not passed over: the program ends with exit code 5, if setting up
logging, which comes first, does not stop it (`run_of_unusable`).
-/

namespace PluginKit.Cli

namespace Configuration

open FileSystem

variable {decoders : Decoders} {files files' : FileSystem} {environment : Environment}
  {path other text : String} {before paths : List String} {c : Configuration}

/-! ## Files -/

/-- The file at a path is read as text and decoded in the language of its extension. -/
inductive Loads (decoders : Decoders) (files : FileSystem) (path : String) :
    Configuration → Prop
  | yaml {bytes : ByteArray} {text : String} {c : Configuration}
      (hfile : files path = .file bytes) (htext : String.fromUTF8? bytes = some text)
      (hyaml : isYaml path = true) (hdecode : decoders.yaml text = some c) :
      Loads decoders files path c
  | json {bytes : ByteArray} {text : String} {c : Configuration}
      (hfile : files path = .file bytes) (htext : String.fromUTF8? bytes = some text)
      (hjson : isYaml path = false) (hdecode : decoders.json text = some c) :
      Loads decoders files path c

/-- None of the files at these paths gives a configuration. -/
def Barren (decoders : Decoders) (files : FileSystem) (paths : List String) : Prop :=
  ∀ path ∈ paths, ∀ c, ¬ Loads decoders files path c

/-- The file at a path gives the configuration, and none of those before it gives one. -/
structure Wins (decoders : Decoders) (files : FileSystem) (before : List String) (path : String)
    (c : Configuration) : Prop where
  passed : Barren decoders files before
  loads : Loads decoders files path c

theorem decode_eq_ok :
    decode decoders path text = .ok c ↔
      isYaml path = true ∧ decoders.yaml text = some c ∨
        isYaml path = false ∧ decoders.json text = some c := by
  unfold decode
  cases isYaml path with
  | true => cases decoders.yaml text <;> simp
  | false => cases decoders.json text <;> simp

theorem ofFile_eq_ok : ofFile decoders files path = .ok c ↔ Loads decoders files path c := by
  have hread : ofFile decoders files path = .ok c ↔
      ∃ text, (files path).read? = some (.ok text) ∧ decode decoders path text = .ok c := by
    unfold ofFile
    cases (files path).read? with
    | none => simp
    | some read => cases read <;> simp
  rw [hread]
  constructor
  · rintro ⟨text, hread, hdecode⟩
    obtain ⟨bytes, hfile, htext⟩ := FileState.read?_eq_ok.1 hread
    rcases decode_eq_ok.1 hdecode with ⟨hyaml, hdecode⟩ | ⟨hjson, hdecode⟩
    · exact .yaml hfile htext hyaml hdecode
    · exact .json hfile htext hjson hdecode
  · rintro (⟨hfile, htext, hyaml, hdecode⟩ | ⟨hfile, htext, hjson, hdecode⟩)
    · exact ⟨_, FileState.read?_eq_ok.2 ⟨_, hfile, htext⟩, decode_eq_ok.2 (.inl ⟨hyaml, hdecode⟩)⟩
    · exact ⟨_, FileState.read?_eq_ok.2 ⟨_, hfile, htext⟩, decode_eq_ok.2 (.inr ⟨hjson, hdecode⟩)⟩

/-- A file is decided by what stands at its own path. -/
theorem ofFile_congr (h : files' path = files path) :
    ofFile decoders files' path = ofFile decoders files path := by
  unfold ofFile
  rw [h]

theorem Loads.congr (h : files' path = files path) :
    Loads decoders files' path c ↔ Loads decoders files path c := by
  rw [← ofFile_eq_ok, ofFile_congr h, ofFile_eq_ok]

theorem not_loads_of_missing (h : files path = .missing) : ¬ Loads decoders files path c := by
  rintro (⟨hfile, -⟩ | ⟨hfile, -⟩) <;> cases h.symm.trans hfile

theorem not_loads_of_directory (h : files path = .directory) : ¬ Loads decoders files path c := by
  rintro (⟨hfile, -⟩ | ⟨hfile, -⟩) <;> cases h.symm.trans hfile

/-! ## The first of some places -/

theorem toOption_ofFile_eq_some :
    (ofFile decoders files path).toOption = some c ↔ Loads decoders files path c := by
  rw [← ofFile_eq_ok]
  cases ofFile decoders files path <;> simp [Except.toOption]

theorem toOption_ofFile_eq_none :
    (ofFile decoders files path).toOption = none ↔ ∀ c, ¬ Loads decoders files path c := by
  rw [Option.eq_none_iff_forall_ne_some]
  exact forall_congr' fun c => not_congr toOption_ofFile_eq_some

theorem firstOf_eq_some :
    firstOf decoders files paths = some c ↔
      ∃ before path after, paths = before ++ path :: after ∧ Wins decoders files before path c := by
  unfold firstOf
  rw [List.findSome?_eq_some_iff]
  constructor
  · rintro ⟨before, path, after, hpaths, hpath, hbefore⟩
    exact ⟨before, path, after, hpaths,
      fun p hp => toOption_ofFile_eq_none.1 (hbefore p hp), toOption_ofFile_eq_some.1 hpath⟩
  · rintro ⟨before, path, after, hpaths, hwins⟩
    exact ⟨before, path, after, hpaths, toOption_ofFile_eq_some.2 hwins.loads,
      fun p hp => toOption_ofFile_eq_none.2 (hwins.passed p hp)⟩

theorem firstOf_eq_none : firstOf decoders files paths = none ↔ Barren decoders files paths := by
  unfold firstOf
  rw [List.findSome?_eq_none_iff]
  exact forall₂_congr fun _ _ => toOption_ofFile_eq_none

/-- Without a selected file, the winner gives the configuration; without a winner it is the
default. -/
theorem load_none_eq_ok :
    load files environment none = .ok c ↔
      (∃ before path after, candidates environment = before ++ path :: after ∧
        Wins environment.decoders files before path c) ∨
      Barren environment.decoders files (candidates environment) ∧ c = {} := by
  rw [← firstOf_eq_some, ← firstOf_eq_none]
  unfold load
  cases hfirst : firstOf environment.decoders files (candidates environment) with
  | none => simp [eq_comm]
  | some found => simp

theorem Wins.load_eq {after : List String} (h : Wins environment.decoders files before path c)
    (hcandidates : candidates environment = before ++ path :: after) :
    load files environment none = .ok c :=
  load_none_eq_ok.2 (.inl ⟨before, path, after, hcandidates, h⟩)

/-! ## Changes beside the winner -/

theorem Wins.of_agree (h : Wins decoders files before path c) (hpath : files' path = files path)
    (hbefore : Barren decoders files' before) : Wins decoders files' before path c :=
  ⟨hbefore, (Loads.congr hpath).2 h.loads⟩

/-- A change of one file, where `locate` tells to which file a path leads.  If that is not the file
of the winner, and no configuration comes of it at a path before the winner, the winner stays. -/
theorem Wins.change {ι : Type} {locate : String → ι} (h : Wins decoders files before path c)
    (hpath : locate path ≠ locate other)
    (helsewhere : ∀ p, locate p ≠ locate other → files' p = files p)
    (hbefore : ∀ p ∈ before, locate p = locate other →
      files' p = .directory ∨ ∀ c, ¬ Loads decoders files' p c) :
    Wins decoders files' before path c := by
  refine h.of_agree (helsewhere path hpath) fun p hp found hloads => ?_
  by_cases hlocate : locate p = locate other
  · rcases hbefore p hp hlocate with hdirectory | hbarren
    · exact not_loads_of_directory hdirectory hloads
    · exact hbarren found hloads
  · exact h.passed p hp found ((Loads.congr (helsewhere p hlocate)).1 hloads)

/-! ## Places -/

/-- The home directory is that which is set, or else that of the account; it has a name. -/
theorem home?_eq_some {directory : String} :
    home? environment = some directory ↔ directory ≠ "" ∧
      (environment.home = some directory ∨
        (∀ other, environment.home = some other → other = "") ∧
          environment.accountHome = some directory) := by
  unfold home?
  rw [Option.or_eq_some_iff, Option.filter_eq_some_iff, Option.filter_eq_none_iff,
    Option.filter_eq_some_iff]
  simp only [decide_eq_true_eq, not_not]
  constructor
  · rintro (⟨hset, hne⟩ | ⟨hunset, haccount, hne⟩)
    · exact ⟨hne, .inl hset⟩
    · exact ⟨hne, .inr ⟨hunset, haccount⟩⟩
  · rintro ⟨hne, hset | ⟨hunset, haccount⟩⟩
    · exact .inl ⟨hset, hne⟩
    · exact .inr ⟨hunset, haccount, hne⟩

/-- The places: four in the current directory, two in that of the user's configuration files and two
in the home directory, where these directories are known. -/
theorem candidates_eq (environment : Environment) :
    candidates environment =
      [".tangelo.yaml", ".tangelo.json", "tangelo.yaml", "tangelo.json"] ++
        ((directory? environment).elim [] fun directory =>
          ["tangelo/config.yaml", "tangelo/config.json"].map (pathIn directory)) ++
        (home? environment).elim [] fun directory =>
          [".tangelo.yaml", ".tangelo.json"].map (pathIn directory) := by
  unfold candidates inDirectory
  cases directory? environment <;> cases home? environment <;> rfl

end Configuration

/-! ## Runs of the program -/

theorem Invocation.exists_line_of_ofWords {file : Option String} {words : List String}
    {i : Invocation} (h : ofWords file words = .ok i) :
    ∃ line, CommandLine.ofWords file words = .ok line ∧
      i.configFile = (line.value? .config).or file := by
  obtain ⟨line, hline, h⟩ := Outcome.bind_eq_ok.1 h
  refine ⟨line, hline, ?_⟩
  cases hcommand : Command.ofStretch? line.verb line.after with
  | none =>
    simp only [hcommand] at h
    cases h
  | some command =>
    simp only [hcommand] at h
    cases h
    rfl

namespace Program

open PluginKit.Cli.Configuration

variable {environment : Environment} {files : FileSystem} {words : List String} {i : Invocation}
  {c : Configuration}

/-- A configuration without a location of the API ends every command before it says anything. -/
theorem ran_perform_of_unusable (hempty : c.library.apiRoot = "") (texts : Texts)
    (files : FileSystem) (input : ByteArray) (command : Command) (console : Console) :
    ∃ problem, (perform texts c files input command).ran console =
      (.failed (.config problem), "") := by
  have husable : c.ensureUsable = .error (.config "api_root must not be empty") := by
    unfold ensureUsable
    rw [hempty]
    rfl
  unfold perform
  rw [husable]
  exact ⟨_, rfl⟩

theorem run_of_unusable
    (hwords : Invocation.ofWords environment.configFile words = .ok i)
    (hload : load files environment i.configFile = .ok c) (hempty : c.library.apiRoot = "")
    (input : ByteArray) :
    (run environment files input words).stdout = "" ∧
      (LogFilter.Proceeds environment i.settings.quiet →
        (run environment files input words).exitCode = 5) := by
  obtain ⟨problem, hran⟩ :=
    ran_perform_of_unusable hempty environment.texts files input i.command
      { settings := i.settings }
  have hrun : run environment files input words = invoke environment files input i := by
    unfold run
    rw [hwords]
  rw [hrun]
  unfold invoke LogFilter.Proceeds
  simp only [hload, hran]
  cases LogFilter.notes? environment i.settings.quiet with
  | none => exact ⟨rfl, fun hproceeds => absurd rfl hproceeds⟩
  | some notes => exact ⟨rfl, fun _ => rfl⟩

/-- **The first place that gives a configuration wins**, whatever decodes the texts.  A selected file
is the only one that is looked at, whatever comes of it.  Without one the configuration is that of
the winner or the default.  It stays the same under every change that leaves the winner and lets
nothing come of the places before it, in particular under a change of another file; and a winner
that cannot be used ends every command. -/
theorem first_place_wins (environment : Environment) (files : FileSystem) :
    (∀ words i, Invocation.ofWords environment.configFile words = .ok i →
      ∃ line, CommandLine.ofWords environment.configFile words = .ok line ∧
        i.configFile = (line.value? .config).or environment.configFile) ∧
    (∀ path, load files environment (some path) = ofFile environment.decoders files path ∧
      ∀ files' environment', files' path = files path →
        environment'.decoders = environment.decoders →
        load files' environment' (some path) = load files environment (some path)) ∧
    (∃ c, load files environment none = .ok c) ∧
    (∀ c, load files environment none = .ok c ↔
      (∃ before path after, candidates environment = before ++ path :: after ∧
        Wins environment.decoders files before path c) ∨
      Barren environment.decoders files (candidates environment) ∧ c = {}) ∧
    candidates environment =
      [".tangelo.yaml", ".tangelo.json", "tangelo.yaml", "tangelo.json"] ++
        ((directory? environment).elim [] fun directory =>
          ["tangelo/config.yaml", "tangelo/config.json"].map (FileSystem.pathIn directory)) ++
        ((home? environment).elim [] fun directory =>
          [".tangelo.yaml", ".tangelo.json"].map (FileSystem.pathIn directory)) ∧
    (∀ directory, home? environment = some directory ↔ directory ≠ "" ∧
      (environment.home = some directory ∨
        (∀ other, environment.home = some other → other = "") ∧
          environment.accountHome = some directory)) ∧
    ∀ before path after c, candidates environment = before ++ path :: after →
      Wins environment.decoders files before path c →
      (∀ files', files' path = files path → Barren environment.decoders files' before →
        load files' environment none = .ok c) ∧
      (∀ {ι : Type} (locate : String → ι) other files', locate path ≠ locate other →
        (∀ p, locate p ≠ locate other → files' p = files p) →
        (∀ p ∈ before, locate p = locate other →
          files' p = .directory ∨ ∀ c', ¬ Loads environment.decoders files' p c') →
        load files' environment none = .ok c) ∧
      (c.library.apiRoot = "" → ∀ words i input,
        Invocation.ofWords environment.configFile words = .ok i → i.configFile = none →
          (run environment files input words).stdout = "" ∧
          (LogFilter.Proceeds environment i.settings.quiet →
            (run environment files input words).exitCode = 5)) := by
  refine ⟨fun words i h => Invocation.exists_line_of_ofWords h, fun path => ⟨rfl, ?_⟩, ⟨_, rfl⟩,
    fun c => load_none_eq_ok, candidates_eq environment, fun directory => home?_eq_some, ?_⟩
  · intro files' environment' hagree hdecoders
    show ofFile environment'.decoders files' path = _
    rw [hdecoders, ofFile_congr hagree]
    rfl
  · intro before path after c hcandidates hwins
    refine ⟨?_, ?_, ?_⟩
    · intro files' hpath hbarren
      exact (hwins.of_agree hpath hbarren).load_eq hcandidates
    · intro ι locate other files' hpath helsewhere hbefore
      exact (hwins.change hpath helsewhere hbefore).load_eq hcandidates
    · intro hempty words i input hwords hnone
      refine run_of_unusable hwords ?_ hempty input
      rw [hnone]
      exact hwins.load_eq hcandidates

/-- A directory, a file that is no JSON text and a missing file before a winner that cannot be used;
what stands behind it, in the home directory, has no influence. -/
theorem place_of_mixed_files :
    let environment : Environment := { home := some "/h" }
    let files : FileSystem := fun path =>
      if path = ".tangelo.yaml" then .directory
      else if path = ".tangelo.json" then .file "[".toUTF8
      else if path = "tangelo.json" then
        .file "\x7b\"library\":\x7b\"api_root\":\"\"\x7d\x7d".toUTF8
      else .missing
    let changed : FileSystem := fun path =>
      if path = "/h/.tangelo.yaml" then .file "logging: \x7bformat: json\x7d".toUTF8 else files path
    candidates environment =
        [".tangelo.yaml", ".tangelo.json", "tangelo.yaml", "tangelo.json",
          "/h/.config/tangelo/config.yaml", "/h/.config/tangelo/config.json", "/h/.tangelo.yaml",
          "/h/.tangelo.json"] ∧
      load files environment none = .ok { library := { apiRoot := "" } } ∧
      load changed environment none = .ok { library := { apiRoot := "" } } ∧
      load files environment (some ".tangelo.json") = .error .json ∧
      (run environment files .empty ["version"]).exitCode = 5 := by
  intro environment files changed
  have hpassed : Barren environment.decoders files [".tangelo.yaml", ".tangelo.json", "tangelo.yaml"] := by
    intro path hpath found hloads
    rw [← ofFile_eq_ok] at hloads
    simp only [List.mem_cons, List.not_mem_nil, or_false] at hpath
    rcases hpath with rfl | rfl | rfl <;> cases hloads
  have hloads : Loads environment.decoders files "tangelo.json" { library := { apiRoot := "" } } :=
    ofFile_eq_ok.1 rfl
  obtain ⟨-, hselected, -, hwinner, -, -, hchanges⟩ := first_place_wins environment files
  obtain ⟨-, hchange, hunusable⟩ := hchanges
    [".tangelo.yaml", ".tangelo.json", "tangelo.yaml"] "tangelo.json" _ _ rfl ⟨hpassed, hloads⟩
  obtain ⟨-, hcode⟩ := hunusable rfl ["version"] _ .empty rfl rfl
  have hproceeds : LogFilter.Proceeds environment false :=
    LogFilter.proceeds_iff.2 (.inr fun _ hfilter => by cases hfilter)
  refine ⟨rfl, (hwinner _).2 (.inl ⟨_, "tangelo.json", _, rfl, ⟨hpassed, hloads⟩⟩), ?_,
    (hselected ".tangelo.json").1, hcode hproceeds⟩
  -- the changed file is none of those before the winner
  refine hchange id "/h/.tangelo.yaml" changed (by decide) (fun p hp => if_neg hp) ?_
  intro p hp hlocate
  rw [show p = "/h/.tangelo.yaml" from hlocate] at hp
  exact absurd hp (by decide)

/-- The home directory as current directory: the last place leads to the file of the second one, so
that a file which is made there, behind the winner, takes its place. -/
theorem home_is_current_directory :
    let environment : Environment := { home := some "." }
    let old : FileState := .file "\x7b\"library\":\x7b\"version\":\"1.0.0\"\x7d\x7d".toUTF8
    let new : FileState := .file "\x7b\"library\":\x7b\"version\":\"2.0.0\"\x7d\x7d".toUTF8
    let files := FileSystem.ofEntries [] [(["tangelo.json"], old)]
    let changed := FileSystem.ofEntries [] [(["tangelo.json"], old), ([".tangelo.json"], new)]
    ∃ before after, candidates environment = before ++ "tangelo.json" :: after ∧
      Wins environment.decoders files before "tangelo.json" { library := { version := "1.0.0" } } ∧
      "./.tangelo.json" ∈ after ∧ changed "./.tangelo.json" = changed ".tangelo.json" ∧
      changed "tangelo.json" = files "tangelo.json" ∧
      load files environment none = .ok { library := { version := "1.0.0" } } ∧
      load changed environment none = .ok { library := { version := "2.0.0" } } := by
  intro environment old new files changed
  have hdecode : ofJsonText? "\x7b\"library\":\x7b\"version\":\"1.0.0\"\x7d\x7d" =
      some { library := { version := "1.0.0" } } := rfl
  have hdecode' : ofJsonText? "\x7b\"library\":\x7b\"version\":\"2.0.0\"\x7d\x7d" =
      some { library := { version := "2.0.0" } } := rfl
  have hold : Wins environment.decoders files
      [".tangelo.yaml", ".tangelo.json", "tangelo.yaml"] "tangelo.json"
      { library := { version := "1.0.0" } } := by
    refine ⟨fun path hpath found => ?_, .json rfl rfl rfl hdecode⟩
    simp only [List.mem_cons, List.not_mem_nil, or_false] at hpath
    rcases hpath with rfl | rfl | rfl <;> exact not_loads_of_missing rfl
  have hnew : Wins environment.decoders changed [".tangelo.yaml"] ".tangelo.json"
      { library := { version := "2.0.0" } } := by
    refine ⟨fun path hpath found => ?_, .json rfl rfl rfl hdecode'⟩
    rw [List.mem_singleton.1 hpath]
    exact not_loads_of_missing rfl
  exact ⟨_, _, rfl, hold, by decide, rfl, rfl, hold.load_eq rfl, hnew.load_eq rfl⟩

end Program

end PluginKit.Cli
