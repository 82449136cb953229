import PluginKit.Json.Basic
import PluginKit.Text.Numeral

/-!
# Field paths

A path leads from a record to a value inside it.  The path `.` is the record itself; any other text
is a list of segments with points between them, one step each.  A step at an object takes the entry
with the segment as its key; a step at an array takes the item whose position the segment gives as a
numeral, with or without a plus sign before it.  No other value has a step.
-/

namespace PluginKit

/-- A path from a record to a value inside it. -/
inductive Path
  /-- The record itself. -/
  | whole
  /-- One step for each segment. -/
  | segments (names : List String)
  deriving DecidableEq, Repr

namespace Path

/-- The path that a text stands for. -/
def parse (text : String) : Path :=
  if text.toList = ['.'] then .whole
  else .segments ((text.toList.splitOn '.').map String.ofList)

/-- The path as text. -/
def render : Path → String
  | .whole => "."
  | .segments names => String.ofList (['.'].intercalate (names.map String.toList))

instance : ToString Path := ⟨render⟩

/-- The position in an array that a segment gives. -/
def position? (segment : String) : Option Nat :=
  match segment.toList with
  | '+' :: digits => Numeral.read? digits
  | digits => Numeral.read? digits

/-- One step from a value. -/
def step? (value : Json) (segment : String) : Option Json :=
  match value with
  | .obj entries => Entries.find? segment entries
  | .arr items => (position? segment).bind fun i => items[i]?
  | _ => none

/-- The value at the end of a path; none as soon as a step is missing. -/
def resolve? (path : Path) (record : Json) : Option Json :=
  match path with
  | .whole => some record
  | .segments names => names.foldlM step? record

end Path

end PluginKit
