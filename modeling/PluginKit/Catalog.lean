import PluginKit.Settings

/-!
# Error codes and incidents

A catalog holds the messages of error codes.  An incident is an error from which the application
recovers, for instance by showing its message: it has a code, a message and, where a request failed,
what that request left behind.
-/

namespace PluginKit

/-- The messages of error codes. -/
structure Catalog where
  messages : Table UInt32 String
  deriving DecidableEq, Repr

namespace Catalog

/-- The catalog with the two codes that are built in. -/
def builtin : Catalog where
  messages := .ofList [(0, "ajax failure"), (1, "application error")]

instance : Inhabited Catalog := ⟨builtin⟩

/-- Sets the message of a code. -/
def register (c : Catalog) (code : UInt32) (message : String) : Catalog where
  messages := c.messages.insert code message

/-- Sets the messages of several codes in turn. -/
def registerAll (c : Catalog) (messages : List (UInt32 × String)) : Catalog :=
  messages.foldl (fun c entry => c.register entry.1 entry.2) c

/-- Has the code a message of its own? -/
def contains (c : Catalog) (code : UInt32) : Bool :=
  c.messages.contains code

/-- The message of a code, or a general one. -/
def message (c : Catalog) (code : UInt32) : String :=
  (c.messages.find? code).getD
    ("unrecognized error, code " ++ String.ofList (Numeral.write code.toNat))

/-- The codes with their messages, by increasing code. -/
def toList (c : Catalog) : List (UInt32 × String) :=
  c.messages.entries

/-- The catalog that a document gives. -/
def ofDocument? {δ : Type} [Document δ] (document : δ) : Option Catalog := do
  match ← Document.fields? ["messages"] document with
  | [some messages] => return ⟨← Document.messages? messages⟩
  | _ => none

/-- The catalog as an object. -/
def toJson (c : Catalog) : Json :=
  .obj [("messages", Settings.messagesToJson c.messages)]

end Catalog

/-- An error from which the application recovers. -/
structure Incident where
  code : UInt32
  message : String
  /-- What a failed request left behind. -/
  context : Option Json

namespace Incident

/-- The incident of a code, with the message of the catalog. -/
def ofCatalog (catalog : Catalog) (code : UInt32) : Incident where
  code := code
  message := catalog.message code
  context := none

/-- The incident of a code with a message of its own. -/
def ofMessage (code : UInt32) (message : String) : Incident where
  code := code
  message := message
  context := none

/-- The incident together with what a failed request left behind. -/
def withContext (i : Incident) (context : Json) : Incident :=
  { i with context := some context }

/-- The incident on one line. -/
def render (i : Incident) : String :=
  i.message ++ " (code " ++ String.ofList (Numeral.write i.code.toNat) ++ ")"

instance : ToString Incident := ⟨render⟩

/-- The incident as an object; a missing context is left out. -/
def toJson (i : Incident) : Json :=
  .obj ([("code", .ofNat i.code.toNat), ("message", .str i.message)] ++
    (i.context.map fun context => [("context", context)]).getD [])

/-- The code that a value gives: an integer of 32 bits without sign. -/
def codeOfJson? : Json → Option UInt32
  | .num (.int n) => if 0 ≤ n ∧ n < UInt32.size then some n.toNat.toUInt32 else none
  | _ => none

/-- A context that is given; null counts as none. -/
def contextOfJson : Option Json → Option Json
  | some .null => none
  | context => context

/-- The incident that a value gives. -/
def ofJson? (value : Json) : Option Incident := do
  match ← Document.fields? ["code", "message", "context"] value with
  | [some code, some message, context] =>
    return { code := ← codeOfJson? code, message := ← Document.text? message,
             context := contextOfJson context }
  | _ => none

end Incident

end PluginKit
