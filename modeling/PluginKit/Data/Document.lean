import PluginKit.Json.Draft
import PluginKit.Text.Numeral

/-!
# Reading structures from documents

A document is a JSON value, a JSON draft or a YAML text.  What a reader may ask of it is the same
for all of them (`Document`), so that a structure is read from each by the same definition.

A structure is written as a table with its fields as keys, or in JSON as the list of its fields in
their order, the last of which may be left out.  In a table a field may stand only once, and keys
that are no field are passed over.
-/

namespace PluginKit

/-- The key of a table entry, as text and as the code that it stands for. -/
structure Document.Key where
  /-- The key as text; none if it is no text. -/
  name? : Option String
  /-- The key as a number of 32 bits; none if it is no such number. -/
  code? : Option UInt32
  deriving DecidableEq, Repr

/-- What a reader may ask of a document. -/
class Document (δ : Type) where
  /-- The entries of a table. -/
  entries? : δ → Option (List (Document.Key × δ))
  /-- The items of a list that may stand for the fields of a structure. -/
  fieldList? : δ → Option (List δ)
  /-- The value of a text. -/
  text? : δ → Option String
  /-- The value of a truth value. -/
  bool? : δ → Option Bool

namespace Document

variable {δ : Type} [Document δ]

/-- The entry of a field, which may be missing but may not stand twice. -/
def field? (name : String) (entries : List (Key × δ)) : Option (Option δ) :=
  match entries.filter fun entry => entry.1.name? == some name with
  | [] => some none
  | [entry] => some (some entry.2)
  | _ => none

/-- The fields of a structure, in the order of their names, as far as they are given. -/
def fields? (names : List String) (document : δ) : Option (List (Option δ)) :=
  match fieldList? document with
  | some items =>
    if items.length ≤ names.length then
      some (items.map some ++ List.replicate (names.length - items.length) none)
    else none
  | none => do
    let entries ← entries? document
    if entries.any fun entry => entry.1.name?.isNone then none
    else names.mapM fun name => field? name entries

/-- Reads a field that is given, and otherwise takes its default. -/
def orDefault {α : Type} (default : α) (read : δ → Option α) : Option δ → Option α
  | none => some default
  | some document => read document

/-- The messages of a table from codes to texts; of two for one code the later stays. -/
def messages? (document : δ) : Option (Table UInt32 String) := do
  let entries ← entries? document
  let pairs ← entries.mapM fun (key, value) => do return (← key.code?, ← text? value)
  return Table.ofList pairs

end Document

/-! ## JSON values and drafts -/

/-- The number of 32 bits that a key spells: a numeral without superfluous zeros. -/
def Json.code? (key : List Char) : Option UInt32 :=
  match Numeral.read? key with
  | some n => if Numeral.write n = key ∧ n < UInt32.size then some n.toUInt32 else none
  | none => none

instance : Document Json where
  entries?
    | .obj entries =>
      some (entries.map fun (key, value) => (⟨some key, Json.code? key.toList⟩, value))
    | _ => none
  fieldList?
    | .arr items => some items
    | _ => none
  text?
    | .str text => some text
    | _ => none
  bool?
    | .bool value => some value
    | _ => none

instance : Document Json.Draft where
  entries?
    | .obj entries =>
      some (entries.map fun (raw, value) => (⟨Json.Draft.text? raw, Json.code? raw⟩, value))
    | _ => none
  fieldList?
    | .arr items => some items
    | _ => none
  text?
    | .str raw => Json.Draft.text? raw
    | _ => none
  bool?
    | .bool value => some value
    | _ => none

end PluginKit
