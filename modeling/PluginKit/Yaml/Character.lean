/-!
# Characters of YAML texts

The classes of characters that reading and writing YAML depend on.
-/

namespace PluginKit.Yaml

/-- Does the character end a line? -/
def isBreak (c : Char) : Bool :=
  c == '\n' || c == '\r' || c == '\u0085' || c == '\u2028' || c == '\u2029'

/-- Is the character a space or a tab? -/
def isBlank (c : Char) : Bool :=
  c == ' ' || c == '\t'

/-- Is the text at its end, or does it go on with a blank or a line break? -/
def atGap : List Char → Bool
  | [] => true
  | c :: _ => isBlank c || isBreak c

/-- Is the text at its end, or does it go on with a line break? -/
def atLineEnd : List Char → Bool
  | [] => true
  | c :: _ => isBreak c

/-- May the character stand in the name of an anchor, a directive or the handle of tags? -/
def isNameChar (c : Char) : Bool :=
  c.isAlphanum || c == '-' || c == '_'

/-- The byte order mark, which may stand before the first token of a line. -/
def mark : Char :=
  '\ufeff'

/-- May the character stand in a YAML text?  Control characters may not, other than the tab and the
line breaks. -/
def isAllowed (c : Char) : Bool :=
  c == '\t' || c == '\n' || c == '\r' || c == '\u0085' || (' ' ≤ c && c ≤ '~') ||
    ('\u00a0' ≤ c && c ≤ '\ufffd') || 0x10000 ≤ c.toNat

/-- May the character be written as it is?  A tab, a carriage return, a next line and the byte order
mark may not, and whatever may not stand in a text at all. -/
def isPrintable (c : Char) : Bool :=
  isAllowed c && c != '\t' && c != '\r' && c != '\u0085' && c != mark

/-- Does a text begin with a marker (three hyphens or points) that stands alone? -/
def atMarker (mark : Char) : List Char → Bool
  | a :: b :: c :: rest => a == mark && b == mark && c == mark && atGap rest
  | _ => false

/-- Does a text begin with a marker of a document's beginning or end? -/
def atDocumentMarker (text : List Char) : Bool :=
  atMarker '-' text || atMarker '.' text

end PluginKit.Yaml
