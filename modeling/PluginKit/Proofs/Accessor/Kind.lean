import Mathlib.Logic.Function.Iterate
import PluginKit.Proofs.Accessor.Meaning
import PluginKit.Proofs.Record.Path

/-!
# Kinds of accessors

The kind of an accessor and the function that it calls are kept side by side.  For the accessors
that can be made they belong together: `Faithful` says what a kind promises about calls, each way to
an accessor establishes it, and compiling again keeps it:

    Made a → Faithful a                                                       (Made.faithful)

Compiling again any number of times leaves kind and calls as they are (`kind_recompile_iterate`,
`call_recompile_iterate`), so the function of a custom accessor is the one that it was made from.
-/

namespace PluginKit.Accessor

/-- The accessor that is compiled from an accessor. -/
def recompile (a : Accessor) : Accessor :=
  compile (.accessor a)

/-- The accessors that are made from specs, from paths and constants, and from functions of the
caller, and those that are compiled from them. -/
inductive Made : Accessor → Prop
  | ofJson {spec : Option Json} {a : Accessor} (h : Accessor.ofJson spec = .ok a) : Made a
  | field (text : String) : Made (compile (.field (Path.parse text)))
  | value (v : Json) : Made (compile (.value v))
  | undefined : Made Accessor.undefined
  | ofFunction (f : Json → Option Nat → Option Json) : Made (Accessor.ofFunction f)
  | recompile {a : Accessor} (h : Made a) : Made a.recompile

/-- The accessor is that of a function, or compiled from one that is. -/
inductive Wraps (f : Json → Option Nat → Option Json) : Accessor → Prop
  | ofFunction : Wraps f (ofFunction f)
  | recompile {a : Accessor} (h : Wraps f a) : Wraps f a.recompile

/-- What a kind promises about the calls of an accessor. -/
def Promises (a : Accessor) : Kind → Prop
  | .undefined => ∀ record index, a.call record index = .error .undefinedAccessor
  | .value => ∃ v, ∀ record index, a.call record index = .ok (some v)
  | .index => ∀ record index, a.call record index = .ok (index.map Json.ofNat)
  | .identity => ∀ record index, a.call record index = .ok (some record)
  | .field text =>
    text ≠ "." ∧ ∀ record index, a.call record index = .ok ((Path.parse text).resolve? record)
  | .custom => ∃ f, Wraps f a ∧ ∀ record index, a.call record index = .ok (f record index)

/-- The accessor keeps what its kind promises. -/
def Faithful (a : Accessor) : Prop :=
  a.Promises a.kind

variable {a : Accessor}

/-! ## Compiling again -/

theorem kind_recompile (a : Accessor) : a.recompile.kind = a.kind :=
  rfl

theorem call_recompile (a : Accessor) (record : Json) (index : Option Nat) :
    a.recompile.call record index = a.call record index :=
  rfl

theorem kind_recompile_iterate (n : Nat) (a : Accessor) : (recompile^[n] a).kind = a.kind := by
  induction n with
  | zero => rfl
  | succ n ih => rw [Function.iterate_succ_apply', kind_recompile, ih]

theorem isUndefined_recompile_iterate (n : Nat) (a : Accessor) :
    (recompile^[n] a).isUndefined = a.isUndefined := by
  unfold isUndefined
  rw [kind_recompile_iterate]

theorem call_recompile_iterate (n : Nat) (a : Accessor) (record : Json) (index : Option Nat) :
    (recompile^[n] a).call record index = a.call record index := by
  induction n with
  | zero => rfl
  | succ n ih => rw [Function.iterate_succ_apply', call_recompile, ih]

/-! ## What kinds promise -/

theorem Faithful.recompile (h : Faithful a) : Faithful a.recompile := by
  unfold Faithful at h ⊢
  rw [kind_recompile]
  cases hkind : a.kind with
  | undefined | value | index | identity | field text =>
    rw [hkind] at h
    exact h
  | custom =>
    rw [hkind] at h
    obtain ⟨f, hwraps, hcall⟩ := h
    exact ⟨f, hwraps.recompile, hcall⟩

theorem faithful_undefined : Faithful undefined :=
  fun _ _ => rfl

theorem faithful_ofFunction (f : Json → Option Nat → Option Json) : Faithful (ofFunction f) :=
  ⟨f, .ofFunction, fun _ _ => rfl⟩

theorem faithful_value (v : Json) : Faithful (compile (.value v)) :=
  ⟨v, fun _ _ => rfl⟩

theorem faithful_index : Faithful (compile .index) :=
  fun _ _ => rfl

/-- The kind of a field accessor gives the text of its path, from which the path is read again. -/
theorem faithful_field (text : String) : Faithful (compile (.field (Path.parse text))) := by
  by_cases htext : text = "."
  · subst htext
    exact fun _ _ => rfl
  · have hkind : (compile (.field (Path.parse text))).kind = .field text := by
      rw [Path.parse_of_ne htext]
      exact congrArg Kind.field (Path.render_segmentsOf text)
    unfold Faithful
    rw [hkind]
    exact ⟨htext, fun record index => call_field (Path.parse text) record index⟩

theorem faithful_of_denotes {entries : List (String × Json)} {denoted : Spec}
    (h : Denotes entries denoted) : Faithful (compile denoted) := by
  cases h with
  | value _ => exact faithful_value _
  | index _ _ => exact faithful_index
  | field _ _ _ => exact faithful_field _

theorem faithful_of_ofJson {spec : Option Json} (h : ofJson spec = .ok a) : Faithful a := by
  rcases ofJson_cases spec with ⟨hspec, -⟩ | ⟨entries, denoted, -, hdenotes, hspec⟩ |
    ⟨entries, -, -, hspec⟩
  · cases hspec.symm.trans h
    exact faithful_undefined
  · cases hspec.symm.trans h
    exact faithful_of_denotes hdenotes
  · cases hspec.symm.trans h

/-- Each way to an accessor establishes what its kind promises. -/
theorem Made.faithful (h : Made a) : Faithful a := by
  induction h with
  | ofJson h => exact faithful_of_ofJson h
  | field text => exact faithful_field text
  | value v => exact faithful_value v
  | undefined => exact faithful_undefined
  | ofFunction f => exact faithful_ofFunction f
  | recompile _ ih => exact ih.recompile

theorem Made.promises (h : Made a) {kind : Kind} (hkind : a.kind = kind) : a.Promises kind := by
  rw [← hkind]
  exact h.faithful

/-! ## The function of a custom accessor -/

theorem Wraps.call_eq {f : Json → Option Nat → Option Json} (h : Wraps f a) :
    a.kind = .custom ∧ ∀ record index, a.call record index = .ok (f record index) := by
  induction h with
  | ofFunction => exact ⟨rfl, fun _ _ => rfl⟩
  | recompile _ ih => exact ih

theorem isUndefined_iff : a.isUndefined = true ↔ a.kind = .undefined :=
  beq_iff_eq

/-- An accessor is undefined if each call fails, and then each call fails in the same way. -/
theorem isUndefined_iff_call :
    a.isUndefined = true ↔ ∀ record index, a.call record index = .error .undefinedAccessor := by
  constructor
  · intro h record index
    exact call_eq_error.2 ⟨h, rfl⟩
  · intro h
    exact (call_eq_error.1 (h .null none)).1

/-- **The kind of an accessor describes what it does**, however it was made and however often it was
compiled again, which changes nothing. -/
theorem kind_faithful (hmade : Made a) :
    (a.kind = .undefined ↔ a.isUndefined = true) ∧
    (a.isUndefined = true ↔
      ∀ record index, a.call record index = .error .undefinedAccessor) ∧
    (a.kind = .value → ∃ v, ∀ record index, a.call record index = .ok (some v)) ∧
    (a.kind = .index →
      ∀ record index, a.call record index = .ok (index.map fun i : Nat => .num (.int i))) ∧
    (a.kind = .identity → ∀ record index, a.call record index = .ok (some record)) ∧
    (∀ text, a.kind = .field text → text ≠ "." ∧
      ∀ record index, a.call record index = .ok ((Path.parse text).resolve? record)) ∧
    (a.kind = .custom → ∃ f, Wraps f a) ∧
    (∀ f, Wraps f a →
      a.kind = .custom ∧ ∀ record index, a.call record index = .ok (f record index)) ∧
    ∀ n, (recompile^[n] a).kind = a.kind ∧ (recompile^[n] a).isUndefined = a.isUndefined ∧
      ∀ record index, (recompile^[n] a).call record index = a.call record index := by
  refine ⟨isUndefined_iff.symm, isUndefined_iff_call, fun hkind => hmade.promises hkind,
    fun hkind => hmade.promises hkind, fun hkind => hmade.promises hkind,
    fun text hkind => hmade.promises hkind, ?_, fun f hwraps => hwraps.call_eq, ?_⟩
  · intro hkind
    obtain ⟨f, hwraps, -⟩ := hmade.promises hkind
    exact ⟨f, hwraps⟩
  · intro n
    exact ⟨kind_recompile_iterate n a, isUndefined_recompile_iterate n a,
      call_recompile_iterate n a⟩

/-- The accessor of an empty path, of no spec and of a function, each compiled again. -/
theorem kinds_compiled_again :
    let path := (compile (.field (Path.parse ""))).recompile.recompile
    let missing := undefined.recompile
    let custom := (ofFunction fun record index => index.map fun _ => record).recompile
    (path.kind = .field "" ∧
      ∀ record index, path.call record index = .ok ((Path.parse "").resolve? record)) ∧
      (missing.kind = .undefined ∧
        ∀ record index, missing.call record index = .error .undefinedAccessor) ∧
      custom.kind = .custom ∧
        ∀ record index, custom.call record index = .ok (index.map fun _ => record) := by
  intro path missing custom
  obtain ⟨-, -, -, -, -, hfield, -⟩ := kind_faithful (Made.field "").recompile.recompile
  obtain ⟨hkind, hcalls, -⟩ := kind_faithful Made.undefined.recompile
  obtain ⟨-, -, -, -, -, -, -, hwraps, -⟩ := kind_faithful
    (Made.ofFunction fun record index => index.map fun _ => record).recompile
  exact ⟨⟨rfl, (hfield "" rfl).2⟩, ⟨hkind.2 rfl, hcalls.1 rfl⟩, hwraps _ Wraps.ofFunction.recompile⟩

end PluginKit.Accessor
