import PluginKit.Fault
import PluginKit.Record.Path

/-!
# Accessors

An accessor reads a value from a record and its position.  It is compiled once, from a spec or from
a function of the caller, and then called for each record; a record without the value is no error.
The undefined accessor stands for a missing spec: it can be passed around, but calling it is a
fault.

The kind of an accessor says what it was compiled from.  Compiling an accessor again changes neither
its kind nor what it gives.
-/

namespace PluginKit

/-- What an accessor was compiled from. -/
inductive Accessor.Kind
  /-- A missing or empty spec. -/
  | undefined
  /-- A constant. -/
  | value
  /-- The position of the record. -/
  | index
  /-- The record itself. -/
  | identity
  /-- The value at a path, which is given as text. -/
  | field (path : String)
  /-- A function of the caller. -/
  | custom
  deriving DecidableEq, Repr

/-- A compiled accessor. -/
structure Accessor where
  kind : Accessor.Kind
  /-- What the accessor gives for a record and its position. -/
  read : Json → Option Nat → Option Json

namespace Accessor

/-- The accessor of a missing or empty spec. -/
def undefined : Accessor where
  kind := .undefined
  read _ _ := none

/-- The accessor that calls a function. -/
def ofFunction (f : Json → Option Nat → Option Json) : Accessor where
  kind := .custom
  read := f

/-- Is this the accessor of a missing or empty spec? -/
def isUndefined (a : Accessor) : Bool :=
  a.kind == .undefined

/-- The value for a record and its position. -/
def call (a : Accessor) (record : Json) (index : Option Nat) : Except Fault (Option Json) :=
  if a.isUndefined then .error .undefinedAccessor else .ok (a.read record index)

/-- The value for a record without a position. -/
def get (a : Accessor) (record : Json) : Except Fault (Option Json) :=
  a.call record none

/-- What an accessor is compiled from. -/
inductive Spec
  /-- The same value for each record. -/
  | value (value : Json)
  /-- The position of the record. -/
  | index
  /-- The value at a path in the record. -/
  | field (path : Path)
  /-- An accessor that was compiled before. -/
  | accessor (earlier : Accessor)

/-- The accessor of a spec. -/
def compile : Spec → Accessor
  | .value value => { kind := .value, read := fun _ _ => some value }
  | .index => { kind := .index, read := fun _ index => index.map Json.ofNat }
  | .field .whole => { kind := .identity, read := fun record _ => some record }
  | .field path => { kind := .field path.render, read := fun record _ => path.resolve? record }
  | .accessor earlier =>
    { kind := earlier.kind, read := fun record index => earlier.read record index }

end Accessor

end PluginKit
