import PluginKit.Proofs.Cli.Check
import PluginKit.Proofs.Cli.Values

/-!
# Accesses on the command line

An access reads the text of its spec, compiles the spec, reads the records and calls the accessor for
each of them.  It ends at the first of these stages that fails, with the exit code of that stage and
without a word; if none fails it has one report:

    Fails files input spec records code → exit code `code`, and nothing is written
    no stage fails → exit code 0, and the report on the values is written
                                                                  (run_access_fails_first)

`Fails` asks of each stage that the stages before it succeed, and nothing of those behind it.
-/

namespace PluginKit.Cli.Transcript

open PluginKit.Outcome

/-! ## Stages -/

/-- The text of a spec is read and compiled to this accessor. -/
structure Compiles (spec : String) (value : Json) (a : Accessor) : Prop where
  isJson : Json.parse? spec = some value
  compiled : Accessor.ofJson (some value) = .ok a

/-- The records are read from the file, or from the input if there is no file. -/
inductive Supplies (files : FileSystem) (input : ByteArray) : Option String → Json → Prop
  | file {path text : String} {bytes : ByteArray} {records : Json}
      (hfile : files path = .file bytes) (htext : String.fromUTF8? bytes = some text)
      (hjson : Json.parse? text = some records) : Supplies files input (some path) records
  | input {text : String} {records : Json} (htext : String.fromUTF8? input = some text)
      (hjson : Json.parse? text = some records) : Supplies files input none records

/-- The records cannot be read, which gives this exit code. -/
inductive SupplyFails (files : FileSystem) (input : ByteArray) : Option String → Nat → Prop
  | missing {path : String} (h : files path = .missing) : SupplyFails files input (some path) 3
  | directory {path : String} (h : files path = .directory) : SupplyFails files input (some path) 7
  | locked {path reason : String} (h : files path = .locked reason) :
      SupplyFails files input (some path) 7
  | fileNoText {path : String} {bytes : ByteArray} (hfile : files path = .file bytes)
      (htext : String.fromUTF8? bytes = none) : SupplyFails files input (some path) 7
  | fileNoJson {path text : String} {bytes : ByteArray} (hfile : files path = .file bytes)
      (htext : String.fromUTF8? bytes = some text) (hjson : Json.parse? text = none) :
      SupplyFails files input (some path) 4
  | inputNoText (htext : String.fromUTF8? input = none) : SupplyFails files input none 7
  | inputNoJson {text : String} (htext : String.fromUTF8? input = some text)
      (hjson : Json.parse? text = none) : SupplyFails files input none 12

/-- The first stage that fails gives this exit code. -/
inductive Fails (files : FileSystem) (input : ByteArray) (spec : String) (records : Option String) :
    Nat → Prop
  | text (h : Json.parse? spec = none) : Fails files input spec records 6
  | spec {value : Json} {fault : Fault} (h : Json.parse? spec = some value)
      (hfault : Accessor.ofJson (some value) = .error fault) : Fails files input spec records 2
  | records {value : Json} {a : Accessor} {code : Nat} (hspec : Compiles spec value a)
      (h : SupplyFails files input records code) : Fails files input spec records code
  | call {value found : Json} {a : Accessor} (hspec : Compiles spec value a)
      (hrecords : Supplies files input records found) (hundefined : a.isUndefined = true)
      (hne : found ≠ .arr []) : Fails files input spec records 2

variable {files : FileSystem} {input : ByteArray} {spec : String} {records : Option String}
  {a : Accessor} {code : Nat}

/-- It fails, with a failure that has this exit code. -/
def FailsWith {α : Type} (x : Except Failure α) (code : Nat) : Prop :=
  ∃ failure, x = .error failure ∧ failure.exitCode = code

theorem FailsWith.bind {α β : Type} {x : Except Failure α} (h : FailsWith x code)
    (f : α → Except Failure β) : FailsWith (x >>= f) code := by
  obtain ⟨failure, hx, hcode⟩ := h
  exact ⟨failure, bind_eq_error.2 (.inl hx), hcode⟩

/-! ## The spec -/

theorem accessorOfText_of_compiles {value : Json} (h : Compiles spec value a) :
    accessorOfText spec = .ok a := by
  unfold accessorOfText
  simp only [h.isJson, h.compiled]
  rfl

theorem accessorOfText_of_none (h : Json.parse? spec = none) :
    FailsWith (accessorOfText spec) 6 := by
  unfold accessorOfText
  rw [h]
  exact ⟨_, rfl, rfl⟩

theorem accessorOfText_of_refused {value : Json} {fault : Fault}
    (h : Json.parse? spec = some value) (hfault : Accessor.ofJson (some value) = .error fault) :
    FailsWith (accessorOfText spec) 2 := by
  unfold accessorOfText
  simp only [h, hfault]
  exact ⟨_, rfl, rfl⟩

/-! ## The records -/

/-- The records of an access. -/
def recordsOf (files : FileSystem) (input : ByteArray) : Option String → Except Failure Json
  | some path => recordsOfFile files path
  | none => recordsOfInput input

theorem recordsOf_of_supplies {found : Json} (h : Supplies files input records found) :
    recordsOf files input records = .ok found := by
  cases h with
  | file hfile htext hjson =>
    unfold recordsOf recordsOfFile
    simp only [hfile, FileState.read?, textOfBytes, htext, hjson]
  | input htext hjson =>
    unfold recordsOf recordsOfInput
    simp only [textOfBytes, htext, hjson]

theorem recordsOf_of_supplyFails (h : SupplyFails files input records code) :
    FailsWith (recordsOf files input records) code := by
  unfold recordsOf
  cases h with
  | missing h | directory h | locked h =>
    unfold recordsOfFile
    simp only [h, FileState.read?]
    exact ⟨_, rfl, rfl⟩
  | fileNoText hfile htext =>
    unfold recordsOfFile
    simp only [hfile, FileState.read?, textOfBytes, htext]
    exact ⟨_, rfl, rfl⟩
  | fileNoJson hfile htext hjson =>
    unfold recordsOfFile
    simp only [hfile, FileState.read?, textOfBytes, htext, hjson]
    exact ⟨_, rfl, rfl⟩
  | inputNoText htext =>
    unfold recordsOfInput
    simp only [textOfBytes, htext]
    exact ⟨_, rfl, rfl⟩
  | inputNoJson htext hjson =>
    unfold recordsOfInput
    simp only [textOfBytes, htext, hjson]
    exact ⟨_, rfl, rfl⟩

/-- Bytes are no text, or a text that is no JSON text, or one of a value. -/
theorem bytes_cases (bytes : ByteArray) :
    String.fromUTF8? bytes = none ∨
      ∃ text, String.fromUTF8? bytes = some text ∧
        (Json.parse? text = none ∨ ∃ value, Json.parse? text = some value) := by
  cases String.fromUTF8? bytes with
  | none => exact .inl rfl
  | some text =>
    refine .inr ⟨text, rfl, ?_⟩
    cases Json.parse? text with
    | none => exact .inl rfl
    | some value => exact .inr ⟨value, rfl⟩

theorem supplies_or_supplyFails (files : FileSystem) (input : ByteArray)
    (records : Option String) :
    (∃ found, Supplies files input records found) ∨
      ∃ code, SupplyFails files input records code := by
  cases records with
  | none =>
    rcases bytes_cases input with htext | ⟨text, htext, hjson | ⟨value, hjson⟩⟩
    · exact .inr ⟨_, .inputNoText htext⟩
    · exact .inr ⟨_, .inputNoJson htext hjson⟩
    · exact .inl ⟨_, .input htext hjson⟩
  | some path =>
    cases hfile : files path with
    | missing => exact .inr ⟨_, .missing hfile⟩
    | directory => exact .inr ⟨_, .directory hfile⟩
    | locked reason => exact .inr ⟨_, .locked hfile⟩
    | file bytes =>
      rcases bytes_cases bytes with htext | ⟨text, htext, hjson | ⟨value, hjson⟩⟩
      · exact .inr ⟨_, .fileNoText hfile htext⟩
      · exact .inr ⟨_, .fileNoJson hfile htext hjson⟩
      · exact .inl ⟨_, .file hfile htext hjson⟩

/-! ## All stages -/

theorem accessed_eq (files : FileSystem) (input : ByteArray) (spec : String)
    (records : Option String) :
    accessed files input spec records =
      (accessorOfText spec >>= fun a => recordsOf files input records >>= fun found =>
        (valuesOf a found).mapError .fault) := by
  cases records <;> rfl

theorem accessed_of_compiles {value : Json} (h : Compiles spec value a) :
    accessed files input spec records =
      (recordsOf files input records >>= fun found => (valuesOf a found).mapError .fault) := by
  rw [accessed_eq, accessorOfText_of_compiles h]
  rfl

theorem accessed_of_supplies {value found : Json} (hspec : Compiles spec value a)
    (hrecords : Supplies files input records found) :
    accessed files input spec records = (valuesOf a found).mapError .fault := by
  rw [accessed_of_compiles hspec, recordsOf_of_supplies hrecords]
  rfl

theorem SupplyFails.ne_zero (h : SupplyFails files input records code) : code ≠ 0 := by
  cases h <;> decide

theorem Fails.ne_zero (h : Fails files input spec records code) : code ≠ 0 := by
  cases h with
  | text _ | spec _ _ | call _ _ _ _ => decide
  | records _ h => exact h.ne_zero

/-- An access ends at the first stage that fails. -/
theorem accessed_of_fails (h : Fails files input spec records code) :
    FailsWith (accessed files input spec records) code := by
  cases h with
  | text h =>
    rw [accessed_eq]
    exact (accessorOfText_of_none h).bind _
  | spec h hfault =>
    rw [accessed_eq]
    exact (accessorOfText_of_refused h hfault).bind _
  | records hspec h =>
    rw [accessed_of_compiles hspec]
    exact (recordsOf_of_supplyFails h).bind _
  | call hspec hrecords hundefined hne =>
    rw [accessed_of_supplies hspec hrecords]
    exact ⟨_, mapError_eq_error.2 ⟨_, valuesOf_eq_error.2 ⟨hundefined, hne, rfl⟩, rfl⟩, rfl⟩

/-- Without a stage that fails there are values. -/
theorem accessed_of_not_fails (h : ∀ code, ¬ Fails files input spec records code) :
    ∃ value a found values, Compiles spec value a ∧ Supplies files input records found ∧
      valuesOf a found = .ok values ∧ accessed files input spec records = .ok values := by
  cases hjson : Json.parse? spec with
  | none => exact absurd (.text hjson) (h 6)
  | some value =>
    cases hcompiled : Accessor.ofJson (some value) with
    | error fault => exact absurd (.spec hjson hcompiled) (h 2)
    | ok a =>
      have hspec : Compiles spec value a := ⟨hjson, hcompiled⟩
      rcases supplies_or_supplyFails files input records with ⟨found, hrecords⟩ | ⟨code, hfails⟩
      · cases hvalues : valuesOf a found with
        | ok values =>
          refine ⟨value, a, found, values, hspec, hrecords, hvalues, ?_⟩
          rw [accessed_of_supplies hspec hrecords, hvalues]
          rfl
        | error fault =>
          obtain ⟨hundefined, hne, -⟩ := valuesOf_eq_error.1 hvalues
          exact absurd (.call hspec hrecords hundefined hne) (h 2)
      · exact absurd (.records hspec hfails) (h code)

theorem access_of_fails (h : Fails files input spec records code) :
    ∃ ending : Ending, access files input spec records = { messages := [], ending } ∧
      ending.exitCode = code := by
  obtain ⟨failure, haccessed, hcode⟩ := accessed_of_fails h
  refine ⟨.failed failure, ?_, hcode⟩
  unfold access
  rw [haccessed]
  rfl

theorem access_of_not_fails (h : ∀ code, ¬ Fails files input spec records code) :
    ∃ value a found values, Compiles spec value a ∧ Supplies files input records found ∧
      valuesOf a found = .ok values ∧
      access files input spec records =
        { messages := [.report (.arr values) (valuesWords values)], ending := .done } := by
  obtain ⟨value, a, found, values, hspec, hrecords, hvalues, haccessed⟩ := accessed_of_not_fails h
  refine ⟨value, a, found, values, hspec, hrecords, hvalues, ?_⟩
  unfold access
  rw [haccessed]

end PluginKit.Cli.Transcript

/-! ## Runs of the program -/

namespace PluginKit.Cli.Program

open Transcript

variable {environment : Environment} {files : FileSystem} {words : List String} {i : Invocation}
  {h : Host} {spec : String} {records : Option String}

/-- **An access fails at the first of its stages that fails**, whatever is wrong with those behind
it, and then writes nothing; if no stage fails it writes one report on the values. -/
theorem run_access_fails_first (hreaches : Reaches environment files words i h)
    (hcommand : i.command = .access spec records) (input : ByteArray) :
    let t := Transcript.ofCommand h files input i.command
    let outcome := run environment files input words
    (∀ code, Fails files input spec records code →
      outcome.exitCode = code ∧ t.reports = [] ∧ outcome.stdout = "") ∧
    (outcome.exitCode = 0 ↔ ∀ code, ¬ Fails files input spec records code) ∧
    ((∀ code, ¬ Fails files input spec records code) →
      ∃ value a found values, Compiles spec value a ∧ Supplies files input records found ∧
        valuesOf a found = .ok values ∧ t.reports = [(.arr values, valuesWords values)] ∧
        outcome.stdout =
          reportText i.settings.format (.arr values) (valuesWords values) ++ "\n") := by
  intro t outcome
  have ht : t = access files input spec records := by
    show Transcript.ofCommand h files input i.command = _
    rw [hcommand]
    rfl
  have hscript : ∀ shell, i.command ≠ .completions shell := by simp [hcommand]
  have hcode : outcome.exitCode = t.ending.exitCode := hreaches.exitCode_run hscript input
  have hstdout : outcome.stdout = writeMessages i.settings t.messages :=
    hreaches.stdout_run hscript input
  have hfails : ∀ code, Fails files input spec records code →
      outcome.exitCode = code ∧ t.reports = [] ∧ outcome.stdout = "" := by
    intro code hfails
    obtain ⟨ending, haccess, hending⟩ := access_of_fails hfails
    rw [hcode, hstdout, ht, haccess]
    exact ⟨hending, rfl, rfl⟩
  refine ⟨hfails, ⟨?_, ?_⟩, ?_⟩
  · intro hzero code hcode
    exact hcode.ne_zero ((hfails code hcode).1.symm.trans hzero)
  · intro hnone
    obtain ⟨_, _, _, _, -, -, -, haccess⟩ := access_of_not_fails hnone
    rw [hcode, ht, haccess]
    rfl
  · intro hnone
    obtain ⟨value, a, found, values, hspec, hrecords, hvalues, haccess⟩ :=
      access_of_not_fails hnone
    rw [hstdout, ht, haccess]
    exact ⟨value, a, found, values, hspec, hrecords, hvalues, rfl,
      writeMessages_report _ _ _ _⟩

/-- With a configuration that can be used, every access is reached by some words, unless the name of
its file is empty. -/
theorem reaches_accessWords {configuration : Configuration}
    (hfile : ∀ path ∈ environment.configFile, path ≠ "")
    (hload : Configuration.load files environment environment.configFile = .ok configuration)
    (husable : configuration.ensureUsable = .ok ()) (settings : OutputSettings)
    (hproceeds : LogFilter.Proceeds environment settings.quiet) (spec : String)
    (hrecords : ∀ path ∈ records, path ≠ "") :
    Reaches environment files
      (CommandLine.settingsWords settings ++ "access" :: CommandLine.accessWords spec records)
      { command := .access spec records, configFile := environment.configFile, settings }
      (.ofSettings configuration.library) where
  ofWords := CommandLine.ofWords_access hfile settings spec hrecords
  configuration := ⟨configuration, hload, husable, rfl⟩
  proceeds := hproceeds

/-- A text that is no spec and a file that is missing; the missing file alone; and the accessor of
an empty spec, which is called for one record or for none. -/
theorem run_access_of_two_faults :
    let outcome (spec : String) (records : Option String) (input : String) : Outcome :=
      run {} (fun _ => .missing) input.toUTF8
        (CommandLine.settingsWords ⟨.json, false⟩ ++
          "access" :: CommandLine.accessWords spec records)
    ((outcome "[" (some "gone") "").exitCode = 6 ∧ (outcome "[" (some "gone") "").stdout = "") ∧
      (outcome "\x7b\x7d" (some "gone") "").exitCode = 3 ∧
      (outcome "\x7b\x7d" none "1").exitCode = 2 ∧
      (outcome "\x7b\x7d" none "[]").exitCode = 0 ∧
      (outcome "\x7b\x7d" none "[]").stdout = "[]\n" := by
  intro outcome
  have hload : Configuration.load (fun _ => .missing) {} none = .ok {} := rfl
  have hproceeds : LogFilter.Proceeds {} false := LogFilter.proceeds_iff.2 (.inr nofun)
  have hreaches : ∀ spec records, (∀ path ∈ records, path ≠ "") →
      Reaches {} (fun _ => .missing) _ _ (.ofSettings {}) := fun spec records hrecords =>
    reaches_accessWords (by simp) hload rfl ⟨.json, false⟩ hproceeds spec hrecords
  have hgone : ∀ path ∈ some "gone", path ≠ "" := by rintro _ ⟨⟩; decide
  have hempty : Compiles "\x7b\x7d" (.obj []) .undefined := ⟨rfl, rfl⟩
  have hinput := hreaches "\x7b\x7d" none (by simp)
  obtain ⟨htext, -⟩ := run_access_fails_first (hreaches "[" (some "gone") hgone) rfl "".toUTF8
  obtain ⟨hmissing, -⟩ :=
    run_access_fails_first (hreaches "\x7b\x7d" (some "gone") hgone) rfl "".toUTF8
  obtain ⟨hcall, -⟩ := run_access_fails_first hinput rfl "1".toUTF8
  obtain ⟨-, hzero, hvalues⟩ := run_access_fails_first hinput rfl "[]".toUTF8
  have haccessed : accessed (fun _ => .missing) "[]".toUTF8 "\x7b\x7d" none = .ok [] := rfl
  have hnone : ∀ code, ¬ Fails (fun _ => .missing) "[]".toUTF8 "\x7b\x7d" none code := by
    intro code hfails
    obtain ⟨failure, hfailure, -⟩ := accessed_of_fails hfails
    cases haccessed.symm.trans hfailure
  obtain ⟨value, a, found, values, hspec, hrecords, hfound, -, hstdout⟩ := hvalues hnone
  obtain rfl : values = [] := by
    have hok := accessed_of_supplies hspec hrecords
    rw [hfound, haccessed] at hok
    exact (Except.ok.inj hok).symm
  obtain ⟨hexit, -, hsilent⟩ := htext 6 (.text rfl)
  refine ⟨⟨hexit, hsilent⟩, ?_, ?_, hzero.2 hnone, hstdout⟩
  · exact (hmissing 3 (.records hempty (.missing rfl))).1
  · have hone : String.fromUTF8? "1".toUTF8 = some "1" := by decide
    have hrecord : Supplies (fun _ => .missing) "1".toUTF8 none (.num (.int 1)) := .input hone rfl
    exact (hcall 2 (.call hempty hrecord rfl (by simp))).1

end PluginKit.Cli.Program
