import PluginKit.Accessor.Basic

/-!
# Accessor specs in JSON

A spec is an object with one of the keys `value`, `index` and `field`, which are looked for in this
order:

    {"value": 10}         always 10
    {"index": true}       the position of the record
    {"field": "a.b"}      the value at the path a.b

An `index` that does not count as true and a `field` that is no text are passed over.  A missing
spec, the empty object and whatever is no object stand for the undefined accessor; an object without
any usable key is refused.
-/

namespace PluginKit.Accessor

/-- The spec that a JSON value stands for; none for the undefined accessor. -/
def Spec.ofJson (spec : Json) : Except Fault (Option Spec) :=
  match spec with
  | .obj [] => .ok none
  | .obj entries =>
    match Entries.find? "value" entries with
    | some constant => .ok (some (.value constant))
    | none =>
      if ((Entries.find? "index" entries).map Json.isTruthy).getD false then .ok (some .index)
      else
        match Entries.find? "field" entries with
        | some (.str path) => .ok (some (.field (Path.parse path)))
        | _ => .error (.unrecognizedSpec spec)
  | _ => .ok none

/-- The accessor of a JSON value, or of no value at all. -/
def ofJson (spec : Option Json) : Except Fault Accessor :=
  match spec with
  | none => .ok undefined
  | some spec => do
    match ← Spec.ofJson spec with
    | some spec => return compile spec
    | none => return undefined

end PluginKit.Accessor
