import PluginKit.Cli.Output
import PluginKit.Proofs.Json.Ending

/-!
# What messages leave on the output

Messages are written one after the other, a report in every format:

    writeMessages settings (first ++ second) color =
      writeMessages settings first color ++ writeMessages settings second color
                                                                            (writeMessages_append)
    writeMessages settings [.report document words] =
      reportText settings.format document words ++ "\n"                     (writeMessages_report)
    Writes document words format (reportText format document words ++ "\n")  (writes_reportText)
-/

namespace PluginKit.Cli

variable {document : Json} {words : String}

/-- The text of a report in a format. -/
def reportText (format : Format) (document : Json) (words : String) : String :=
  match format.write? document with
  | some text => String.ofList (Blank.trimEnd text)
  | none => words

/-- The text of a note: nothing where notes are not written. -/
def noteText (settings : OutputSettings) (text : String) (color : Option Paint := none) : String :=
  if settings.quiet || settings.format ≠ .human then ""
  else
    match color with
    | none => "INFO: " ++ text ++ "\n"
    | some paint => paint .note "ℹ" ++ " " ++ text ++ "\n"

theorem writeMessages_append (settings : OutputSettings) (first second : List Message)
    (color : Option Paint) :
    writeMessages settings (first ++ second) color =
      writeMessages settings first color ++ writeMessages settings second color := by
  unfold writeMessages
  rw [List.filterMap_append, List.map_append, String.join_append]

theorem writeMessages_singleton (settings : OutputSettings) (message : Message)
    (color : Option Paint) :
    writeMessages settings [message] color =
      ((message.render? settings color).map (· ++ "\n")).getD "" := by
  unfold writeMessages
  cases hrender : message.render? settings color with
  | none =>
    simp only [List.filterMap_cons, List.filterMap_nil, hrender]
    rfl
  | some text =>
    simp only [List.filterMap_cons, List.filterMap_nil, hrender, List.map_singleton,
      String.join_cons, String.join_nil, String.append_empty]
    rfl

theorem render?_report (settings : OutputSettings) (document : Json) (words : String)
    (painted : Paint → String) (color : Option Paint) :
    (Message.report document words painted).render? settings color =
      some (reportText settings.format document ((color.map painted).getD words)) := by
  simp only [Message.render?]
  unfold reportText
  cases settings.format.write? document with
  | some text => rfl
  | none => cases color <;> rfl

theorem writeMessages_painted (settings : OutputSettings) (document : Json) (words : String)
    (painted : Paint → String) (color : Option Paint) :
    writeMessages settings [.report document words painted] color =
      reportText settings.format document ((color.map painted).getD words) ++ "\n" := by
  rw [writeMessages_singleton, render?_report]
  rfl

theorem writeMessages_report (settings : OutputSettings) (document : Json) (words : String)
    (painted : Paint → String) :
    writeMessages settings [.report document words painted] =
      reportText settings.format document words ++ "\n" :=
  writeMessages_painted settings document words painted none

theorem writeMessages_info (settings : OutputSettings) (text : String) (color : Option Paint) :
    writeMessages settings [.info text] color = noteText settings text color := by
  rw [writeMessages_singleton]
  simp only [Message.render?]
  unfold noteText
  cases color <;> split <;> rfl

/-! ## Reports in each format -/

/-- This is written of a report in a format: its JSON text, its YAML text up to the blank characters
at its end, or its words, and a line feed. -/
inductive Writes (document : Json) (words : String) : Format → String → Prop
  | human : Writes document words .human (words ++ "\n")
  | json : Writes document words .json (String.ofList (document.compact ++ ['\n']))
  | yaml : Writes document words .yaml
      (String.ofList (Blank.trimEnd (Yaml.write document) ++ ['\n']))
  | jsonPretty : Writes document words .jsonPretty (String.ofList (document.pretty ++ ['\n']))

/-- Nothing is cut off from a JSON text. -/
theorem writes_reportText (format : Format) (document : Json) (words : String) :
    Writes document words format (reportText format document words ++ "\n") := by
  have hfeed (text : List Char) : String.ofList (text ++ ['\n']) = String.ofList text ++ "\n" :=
    String.ofList_append
  cases format with
  | human => exact .human
  | json =>
    have hjson : Writes document words .json _ := .json
    rw [hfeed, ← document.firm_compact.trimEnd] at hjson
    exact hjson
  | yaml =>
    have hyaml : Writes document words .yaml _ := .yaml
    rw [hfeed] at hyaml
    exact hyaml
  | jsonPretty =>
    have hpretty : Writes document words .jsonPretty _ := .jsonPretty
    rw [hfeed, ← document.firm_pretty.trimEnd] at hpretty
    exact hpretty

end PluginKit.Cli
