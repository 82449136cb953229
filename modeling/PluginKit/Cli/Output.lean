import PluginKit.Json.Summary
import PluginKit.Text.Blank
import PluginKit.Yaml.Printer

/-!
# Output of the command line

A command says what it has to say as messages, and the settings of the output decide which of them
are written and how.  A report is written in every format; notes and warnings are for people only,
and notes can be silenced.  For people, colours can set parts of a text off.
-/

namespace PluginKit.Cli

/-- The format of reports. -/
inductive Format
  | human
  | json
  | yaml
  | jsonPretty
  deriving DecidableEq, Repr, Inhabited

/-- The format with a name. -/
def Format.ofName? : String → Option Format
  | "human" => some .human
  | "json" => some .json
  | "yaml" => some .yaml
  | "json-pretty" => some .jsonPretty
  | _ => none

/-- The text of a document; none for the format that is for people. -/
def Format.write? (format : Format) (document : Json) : Option (List Char) :=
  match format with
  | .human => none
  | .json => some document.compact
  | .yaml => some (Yaml.write document)
  | .jsonPretty => some document.pretty

/-- What colours can tell about a part of a text. -/
inductive Look
  /-- It is as it should be; in bold green. -/
  | good
  /-- It is not as it should be; in bold red. -/
  | bad
  /-- It matters; in bold. -/
  | strong
  /-- A note begins here; in blue. -/
  | note
  /-- It warns; in yellow. -/
  | warning
  deriving DecidableEq, Repr

/-- A way to set parts of a text off. -/
abbrev Paint := Look → String → String

/-- Sets nothing off. -/
def Paint.plain : Paint :=
  fun _ text => text

/-- Something that a command says. -/
inductive Message
  /-- A note beside the report. -/
  | info (text : String)
  /-- The report: as a document, in words, and in words with colours. -/
  | report (document : Json) (words : String) (painted : Paint → String := fun _ => words)
  /-- A warning beside the report. -/
  | warning (text : String)

/-- How messages are written. -/
structure OutputSettings where
  format : Format
  quiet : Bool
  deriving DecidableEq, Repr

/-- A message as it is written, without the line break after it; none if it is not written. -/
def Message.render? (settings : OutputSettings) (message : Message)
    (color : Option Paint := none) : Option String :=
  match message with
  | .info text =>
    if settings.quiet || settings.format ≠ .human then none
    else
      match color with
      | none => some ("INFO: " ++ text)
      | some paint => some (paint .note "ℹ" ++ " " ++ text)
  | .warning text =>
    if settings.format ≠ .human then none
    else
      match color with
      | none => some ("WARNING: " ++ text)
      | some paint => some (paint .warning text)
  | .report document words painted =>
    match settings.format.write? document with
    | some text => some (String.ofList (Blank.trimEnd text))
    | none =>
      match color with
      | none => some words
      | some paint => some (painted paint)

/-- The text of messages, each with a line break after it. -/
def writeMessages (settings : OutputSettings) (messages : List Message)
    (color : Option Paint := none) : String :=
  String.join ((messages.filterMap (Message.render? settings · color)).map (· ++ "\n"))

end PluginKit.Cli
