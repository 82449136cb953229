import PluginKit.Proofs.Cli.Output
import PluginKit.Proofs.Yaml.Ending
import PluginKit.Cli.Program
import PluginKit.Yaml.Node

/-!
# What is left of a serialized report

A report is trimmed before it is written, which does not change a JSON text.  A YAML text keeps all
but its last line feed exactly if a text that stands last in the document keeps its end:

    trimEnd (Yaml.write document) = dropFeed (Yaml.write document) ↔ Kept document
                                                                           (trimEnd_write_eq_iff)
    trimEnd (Yaml.write document) ++ ['\n'] = Yaml.write document ↔ Kept document
                                                                          (trimEnd_write_feed_iff)
-/

namespace PluginKit.Cli

open Blank

/-- A text that stands last in the document keeps its end in YAML. -/
def Kept (document : Json) : Prop :=
  ∀ text, document.lastLeaf = .str text → Yaml.KeepsEnd text.toList

theorem trimEnd_write_eq_iff (document : Json) :
    trimEnd (Yaml.write document) = dropFeed (Yaml.write document) ↔ Kept document := by
  obtain ⟨hne, hfirm⟩ := Yaml.dropFeed_write document
  rw [trimEnd_eq_dropFeed_iff, or_iff_right hne, hfirm]
  exact Iff.rfl

theorem trimEnd_write_feed_iff (document : Json) :
    trimEnd (Yaml.write document) ++ ['\n'] = Yaml.write document ↔ Kept document := by
  rw [← trimEnd_write_eq_iff]
  constructor
  · intro h
    have hdrop := congrArg dropFeed h
    rwa [dropFeed_concat] at hdrop
  · intro h
    have hfirm := (Yaml.dropFeed_write document).2.2 ((trimEnd_write_eq_iff document).1 h)
    rw [h]
    exact (Yaml.write_eq_of_firm hfirm).symm

/-- What is written of a report in a format for programs. -/
theorem writeMessages_of_write? {settings : OutputSettings} {document : Json} {text : List Char}
    (h : settings.format.write? document = some text) (words : String)
    (painted : Paint → String) :
    writeMessages settings [.report document words painted] =
      String.ofList (trimEnd text ++ ['\n']) := by
  rw [writeMessages_report]
  unfold reportText
  rw [h, String.ofList_append]

/-- **Exactly which reports are kept.**  In the JSON formats the text of each document stands on the
output with a line feed behind it.  In YAML it stands there exactly if a text that is the last leaf
of the document keeps its end; so the report on an error with a message of its own is kept exactly
if this message keeps its end. -/
theorem serialized_kept_iff (quiet : Bool) (document : Json) (words : String) :
    let written (format : Format) : String :=
      writeMessages { format, quiet } [.report document words]
    written .json = String.ofList (document.compact ++ ['\n']) ∧
    written .jsonPretty = String.ofList (document.pretty ++ ['\n']) ∧
    (written .yaml = String.ofList (dropFeed (Yaml.write document) ++ ['\n']) ↔ Kept document) ∧
    (written .yaml = String.ofList (Yaml.write document) ↔ Kept document) ∧
    ∀ h code message,
      writeMessages { format := .yaml, quiet } (Transcript.error h code (some message)).messages =
        String.ofList (Yaml.write (Incident.ofMessage code message).toJson) ↔
      Yaml.KeepsEnd message.toList := by
  have hyaml (document : Json) (words : String) (painted : Paint → String) :
      writeMessages { format := .yaml, quiet } [.report document words painted] =
        String.ofList (trimEnd (Yaml.write document) ++ ['\n']) :=
    writeMessages_of_write? rfl words painted
  have hkept (document : Json) (words : String) (painted : Paint → String) :
      writeMessages { format := .yaml, quiet } [.report document words painted] =
        String.ofList (Yaml.write document) ↔ Kept document := by
    rw [hyaml, String.ofList_inj, trimEnd_write_feed_iff]
  have hfeed : writeMessages { format := .yaml, quiet } [.report document words] =
      String.ofList (dropFeed (Yaml.write document) ++ ['\n']) ↔ Kept document := by
    rw [hyaml, String.ofList_inj, List.append_left_inj, trimEnd_write_eq_iff]
  refine ⟨?_, ?_, hfeed, hkept document words _, ?_⟩
  · rw [← document.firm_compact.trimEnd]
    exact writeMessages_of_write? rfl words _
  · rw [← document.firm_pretty.trimEnd]
    exact writeMessages_of_write? rfl words _
  · intro h code message
    have hleaf : Kept (Incident.ofMessage code message).toJson ↔
        Yaml.KeepsEnd message.toList := by
      constructor
      · intro h
        exact h message rfl
      · rintro h text ⟨⟩
        exact h
    rw [← hleaf]
    exact hkept _ _ _

/-- The text of a field in a YAML document. -/
def fieldOfYaml? (field : String) (text : List Char) : Option String := do
  let document ← Yaml.Part.ofText? text
  match ← Document.fields? [field] document with
  | [some value] => Document.text? value
  | _ => none

/-- A no-break space at the end of a message is data, but it is not written: `full` is read
back in its stead. -/
theorem blank_end_of_message_lost :
    (Program.run {} (fun _ => .missing) .empty
        ["-o", "yaml", "error", "--message=full\u00a0", "7"]).stdout =
      "code: 7\nmessage: full\n" ∧
    fieldOfYaml? "message" "code: 7\nmessage: full\n".toList = some "full" ∧
    Yaml.write (Incident.ofMessage 7 "full\u00a0").toJson =
      "code: 7\nmessage: full\u00a0\n".toList ∧
    fieldOfYaml? "message" "code: 7\nmessage: full\u00a0\n".toList =
      some "full\u00a0" := by
  refine ⟨?_, ?_, ?_, ?_⟩
  · decide +kernel
  · decide +kernel
  · decide +kernel
  · decide +kernel

end PluginKit.Cli
