import PluginKit.Proofs.Cli.Access
import PluginKit.Proofs.Json.Summary

/-!
# Results line by line

For people the results of an access stand on a line each, with their positions before them.  If no
string in them and no key has a line feed, the lines are as many as the results:

    values ≠ [] → (∀ v ∈ values, v.Unbroken) →
      (valuesWords values ++ "\n").toList.splitOn '\n' = values.mapIdx valueLine ++ [[]]
                                                                         (splitOn_valuesWords)
-/

namespace PluginKit.Cli

/-- The line of a result at a position. -/
def valueLine (position : Nat) (v : Json) : List Char :=
  Numeral.write position ++ ':' :: ' ' :: v.summary

theorem feed_not_mem_valueLine {v : Json} (h : v.Unbroken) (position : Nat) :
    '\n' ∉ valueLine position v := by
  have hposition := (Decimal.marked_numeral position).feed_not_mem
  have hvalue := Json.feed_not_mem_summary h
  simpa [valueLine] using ⟨hposition, hvalue⟩

theorem toList_valuesWords (values : List Json) :
    (valuesWords values).toList = ['\n'].intercalate (values.mapIdx valueLine) := by
  rw [valuesWords, String.toList_intercalate]
  refine congrArg (List.intercalate _) (List.ext_getElem? fun n => ?_)
  rw [List.getElem?_map, List.getElem?_mapIdx, List.getElem?_mapIdx, Option.map_map]
  refine congrArg (Option.map · values[n]?) (funext fun v => ?_)
  exact String.toList_ofList

/-- Lines with a line feed after each are told apart by their line feeds. -/
theorem splitOn_lines {lines : List (List Char)} (hne : lines ≠ [])
    (hlines : ∀ line ∈ lines, '\n' ∉ line) :
    (['\n'].intercalate lines ++ ['\n']).splitOn '\n' = lines ++ [[]] := by
  rw [← Split.intercalate_concat_nil ['\n'] hne]
  refine List.splitOn_intercalate '\n' (List.forall_mem_append.2 ⟨hlines, ?_⟩) (by simp)
  exact List.forall_mem_singleton.2 List.not_mem_nil

theorem splitOn_valuesWords {values : List Json} (hne : values ≠ [])
    (hunbroken : ∀ v ∈ values, v.Unbroken) :
    (valuesWords values ++ "\n").toList.splitOn '\n' = values.mapIdx valueLine ++ [[]] := by
  rw [String.toList_append, toList_valuesWords]
  refine splitOn_lines ?_ fun line hline => ?_
  · rwa [Ne, List.mapIdx_eq_nil_iff]
  · obtain ⟨n, hn, rfl⟩ := List.mem_mapIdx.1 hline
    exact feed_not_mem_valueLine (hunbroken _ (List.getElem_mem hn)) n

theorem writeMessages_values {settings : OutputSettings} (hhuman : settings.format = .human)
    (values : List Json) :
    writeMessages settings [.report (.arr values) (valuesWords values)] =
      valuesWords values ++ "\n" := by
  rw [writeMessages_report, hhuman]
  rfl

end PluginKit.Cli

namespace PluginKit.Cli.Program

open Transcript

variable {environment : Environment} {files : FileSystem} {words : List String} {i : Invocation}
  {h : Host} {spec : String} {records : Option String} {input : ByteArray} {values : List Json}

theorem stdout_run_access (hreaches : Reaches environment files words i h)
    (hcommand : i.command = .access spec records)
    (haccessed : accessed files input spec records = .ok values) :
    (run environment files input words).stdout =
      writeMessages i.settings [.report (.arr values) (valuesWords values)] := by
  rw [hreaches.stdout_run (by simp [hcommand]), hcommand, ofCommand, access, haccessed]

/-- **Results stand line by line, and only their size shortens them.**  For people each result has a
line of its own, with its position and then the result in short.  A large container in a value can
be replaced by any other of its kind and size, and the short form stays; where there is none,
whatever stands in the value is part of its short form. -/
theorem results_line_by_line :
    (∀ values : List Json, values ≠ [] → (∀ v ∈ values, v.Unbroken) →
      ∃ lines : List (List Char),
        (∀ n : Nat, lines[n]? =
          values[n]?.map fun v => Numeral.write n ++ ':' :: ' ' :: v.summary) ∧
        (∀ settings : OutputSettings, settings.format = .human →
          (writeMessages settings [.report (.arr values) (valuesWords values)]).toList.splitOn
            '\n' = lines ++ [[]]) ∧
        ∀ environment files words i h input spec records,
          Reaches environment files words i h → i.command = .access spec records →
          i.settings.format = .human → accessed files input spec records = .ok values →
            (run environment files input words).stdout.toList.splitOn '\n' = lines ++ [[]]) ∧
    (∀ (frames : List Frame) (c c' : Json), c.IsLarge → c'.extent? = c.extent? →
      (fill frames c').summary = (fill frames c).summary) ∧
    ∀ v : Json, (∀ position c, IsNode v position c → ¬ c.IsLarge) →
      ∀ position leaf text, IsNode v position leaf → leaf.LeafText text →
        text <:+: v.summary := by
  refine ⟨?_, ?_, ?_⟩
  · intro values hne hunbroken
    have hlines := splitOn_valuesWords hne hunbroken
    refine ⟨values.mapIdx valueLine, fun n => List.getElem?_mapIdx, ?_, ?_⟩
    · intro settings hhuman
      rw [writeMessages_values hhuman, hlines]
    · intro environment files words i h input spec records hreaches hcommand hhuman haccessed
      rw [stdout_run_access hreaches hcommand haccessed, writeMessages_values hhuman, hlines]
  · intro frames c c' hlarge hsame
    exact Json.summary_fill_large frames hlarge hsame
  · intro v hsmall position leaf text hnode hleaf
    rw [← Json.summary_of_leafText hleaf]
    exact Json.infix_summary_of_isNode hsmall hnode

/-- A record with four numbers in it and a text, on a line each; the record with four nulls in their
stead; and one that is short enough to show its truth value. -/
theorem results_of_two_records :
    let words := CommandLine.settingsWords ⟨.human, false⟩ ++
      "access" :: CommandLine.accessWords "\x7b\"field\":\".\"\x7d" none
    let text := "[\x7b\"a\":[1,2,3,4],\"b\":\"x, y\"\x7d,\"z\"]"
    let nulls : Json := .obj [("a", .arr (List.replicate 4 .null)), ("b", .str "x, y")]
    let short := "\x7ba: [4 items], b: \"x, y\"\x7d".toList
    (run {} (fun _ => .missing) text.toUTF8 words).stdout.toList.splitOn '\n' =
        ["0: ".toList ++ short, "1: \"z\"".toList, []] ∧
      nulls.summary = short ∧
      "true".toList <:+: (Json.obj [("a", .bool true)]).summary := by
  intro words text nulls short
  let numbers : Json := .arr ([1, 2, 3, 4].map fun n => .num (.int n))
  let around : List Frame := [.entry [] "a" [("b", .str "x, y")]]
  let values : List Json := [fill around numbers, .str "z"]
  obtain ⟨hlines, hreplaced, hshown⟩ := results_line_by_line
  refine ⟨?_, ?_, ?_⟩
  · have hload : Configuration.load (fun _ => .missing) {} none = .ok {} := rfl
    have hproceeds : LogFilter.Proceeds {} false := LogFilter.proceeds_iff.2 (.inr nofun)
    have hreaches : Reaches {} (fun _ => .missing) words _ (.ofSettings {}) :=
      reaches_accessWords (by simp) hload rfl ⟨.human, false⟩ hproceeds _ (by simp)
    have hspec : Compiles "\x7b\"field\":\".\"\x7d" (.obj [("field", .str ".")]) _ :=
      ⟨Json.parse?_eq_some.2 ⟨.obj [("field".toList, .str ['.'])], rfl, rfl⟩, rfl⟩
    have hsupplies : Supplies (fun _ => .missing) text.toUTF8 none (.arr values) := by
      have htext : String.fromUTF8? text.toUTF8 = some text := by decide +kernel
      let digit (c : Char) : Json.Draft := .num ⟨false, [c], none, none⟩
      let draft : Json.Draft := .arr [.obj [(['a'], .arr (['1', '2', '3', '4'].map digit)),
        (['b'], .str "x, y".toList)], .str ['z']]
      have hdraft : Json.Draft.ofText? "[\x7b\"a\":[1,2,3,4],\"b\":\"x, y\"\x7d,\"z\"]".toList =
        some draft := rfl
      exact .input htext (Json.parse?_eq_some.2 ⟨draft, hdraft, rfl⟩)
    have hunbroken : ∀ v ∈ values, v.Unbroken := by
      have hnumbers : numbers.Unbroken := .arr (List.forall_mem_map.2 fun n _ => .num (.int n))
      have hentries : ∀ entry ∈ [("a", numbers), ("b", .str "x, y")], entry.2.Unbroken :=
        List.forall_mem_cons.2 ⟨hnumbers, List.forall_mem_singleton.2 (.str (by simp))⟩
      exact List.forall_mem_cons.2
        ⟨.obj (by simp) hentries, List.forall_mem_singleton.2 (.str (by simp))⟩
    obtain ⟨lines, hline, -, hrun⟩ := hlines values (List.cons_ne_nil _ _) hunbroken
    have hboth : lines = ["0: ".toList ++ short, "1: \"z\"".toList] := by
      refine List.ext_getElem? fun n => (hline n).trans ?_
      rcases n with _ | _ | n
      · decide +kernel
      · decide +kernel
      · rfl
    rw [hrun _ _ _ _ _ _ _ _ hreaches rfl rfl (accessed_of_supplies hspec hsupplies), hboth]
    rfl
  · have hlarge : numbers.IsLarge := by decide
    exact (hreplaced around numbers (.arr (List.replicate 4 .null)) hlarge rfl).trans (by decide +kernel)
  · have hnode : IsNode (.obj [("a", .bool true)]) [.key "a"] (.bool true) :=
      .entry List.mem_cons_self (.root _)
    refine hshown _ (fun position c hc => ?_) _ _ _ hnode .true
    cases hc with
    | root _ => decide
    | entry hmem hrest =>
      obtain ⟨rfl, rfl⟩ := Prod.mk.inj (List.mem_singleton.1 hmem)
      cases hrest
      decide

end PluginKit.Cli.Program
