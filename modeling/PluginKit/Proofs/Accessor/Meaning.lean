import PluginKit.Accessor.Spec

/-!
# What accessor specs mean

A spec has a meaning by its keys alone, whatever function it is compiled to: `Answers` relates a
spec, a record and its position to what a call gives, and `Unusable` says which objects have no
meaning.  Compiling and calling agrees with them:

    (∃ a, ofJson spec = .ok a ∧ a.call record index = result) ↔ Answers spec record index result
    ofJson spec = .error fault ↔ spec is unusable and fault carries it
-/

namespace PluginKit.Accessor

/-! ## Conditions -/

/-- The values that count as true: a text that is not empty, `true`, a list, an object, and a number
other than `0`, `0.0` and `-0.0`. -/
inductive Counts : Json → Prop
  | bool : Counts (.bool true)
  | text {s : String} (h : s ≠ "") : Counts (.str s)
  | int {n : Int} (h : n ≠ 0) : Counts (.num (.int n))
  | float {x : Binary64} (hpos : x ≠ ⟨false, 0⟩) (hneg : x ≠ ⟨true, 0⟩) : Counts (.num (.float x))
  | arr (items : List Json) : Counts (.arr items)
  | obj (entries : List (String × Json)) : Counts (.obj entries)

theorem isZero_eq_true {x : Binary64} : x.isZero = true ↔ x = ⟨false, 0⟩ ∨ x = ⟨true, 0⟩ := by
  obtain ⟨negative, magnitude⟩ := x
  cases negative <;> simp [Binary64.isZero]

theorem isTruthy_iff {v : Json} : v.isTruthy = true ↔ Counts v := by
  constructor
  · intro h
    cases v with
    | null => cases h
    | bool value => cases h; exact .bool
    | num value =>
      cases value with
      | int n => exact .int (by simpa [Json.isTruthy, Number.isZero] using h)
      | float x =>
        have hx : ¬ x.isZero = true := by simpa [Json.isTruthy, Number.isZero] using h
        rw [isZero_eq_true, not_or] at hx
        exact .float hx.1 hx.2
    | str s => exact .text (by simpa [Json.isTruthy] using h)
    | arr items => exact .arr items
    | obj entries => exact .obj entries
  · intro h
    cases h with
    | bool => rfl
    | text h => simpa [Json.isTruthy] using h
    | int h => simpa [Json.isTruthy, Number.isZero] using h
    | float hpos hneg =>
      have hx := mt isZero_eq_true.1 (not_or.2 ⟨hpos, hneg⟩)
      simpa [Json.isTruthy, Number.isZero] using hx
    | arr items => rfl
    | obj entries => rfl

/-- Does the object ask for the position of the record? -/
def AsksIndex (entries : List (String × Json)) : Prop :=
  ∃ flag, Entries.find? "index" entries = some flag ∧ Counts flag

theorem asksIndex_iff {entries : List (String × Json)} :
    ((Entries.find? "index" entries).map Json.isTruthy).getD false = true ↔ AsksIndex entries := by
  unfold AsksIndex
  cases Entries.find? "index" entries with
  | none => simp
  | some flag =>
    rw [Option.map_some, Option.getD_some, isTruthy_iff]
    simp

/-! ## The meaning of a spec -/

/-- What a call of the accessor of a spec gives for a record and its position. -/
inductive Answers : Option Json → Json → Option Nat → Except Fault (Option Json) → Prop
  | missing {record : Json} {index : Option Nat} :
      Answers none record index (.error .undefinedAccessor)
  | noObject {spec record : Json} {index : Option Nat} (h : ∀ entries, spec ≠ .obj entries) :
      Answers (some spec) record index (.error .undefinedAccessor)
  | empty {record : Json} {index : Option Nat} :
      Answers (some (.obj [])) record index (.error .undefinedAccessor)
  | constant {entries : List (String × Json)} {v record : Json} {index : Option Nat}
      (h : Entries.find? "value" entries = some v) :
      Answers (some (.obj entries)) record index (.ok (some v))
  | position {entries : List (String × Json)} {record : Json} {index : Option Nat}
      (hvalue : Entries.find? "value" entries = none) (hindex : AsksIndex entries) :
      Answers (some (.obj entries)) record index (.ok (index.map fun i : Nat => .num (.int i)))
  | whole {entries : List (String × Json)} {record : Json} {index : Option Nat}
      (hvalue : Entries.find? "value" entries = none) (hindex : ¬ AsksIndex entries)
      (hfield : Entries.find? "field" entries = some (.str ".")) :
      Answers (some (.obj entries)) record index (.ok (some record))
  | path {entries : List (String × Json)} {text : String} {record : Json} {index : Option Nat}
      (hvalue : Entries.find? "value" entries = none) (hindex : ¬ AsksIndex entries)
      (hfield : Entries.find? "field" entries = some (.str text)) (htext : text ≠ ".") :
      Answers (some (.obj entries)) record index (.ok ((Path.parse text).resolve? record))

/-- The objects that are no spec: they are not empty, and none of the keys can be used. -/
structure Unusable (entries : List (String × Json)) : Prop where
  ne_nil : entries ≠ []
  value_none : Entries.find? "value" entries = none
  not_asksIndex : ¬ AsksIndex entries
  field_ne : ∀ text, Entries.find? "field" entries ≠ some (.str text)

/-! ## Decoding -/

/-- The spec that an object is decoded to. -/
inductive Denotes (entries : List (String × Json)) : Spec → Prop
  | value {v : Json} (h : Entries.find? "value" entries = some v) : Denotes entries (.value v)
  | index (hvalue : Entries.find? "value" entries = none) (hindex : AsksIndex entries) :
      Denotes entries .index
  | field {text : String} (hvalue : Entries.find? "value" entries = none)
      (hindex : ¬ AsksIndex entries) (hfield : Entries.find? "field" entries = some (.str text)) :
      Denotes entries (.field (Path.parse text))

variable {entries others : List (String × Json)} {denoted : Spec}

/-- An object is empty, is decoded, or is refused. -/
theorem denotes_or_unusable (entries : List (String × Json)) :
    entries = [] ∨ (∃ denoted, Denotes entries denoted) ∨ Unusable entries := by
  by_cases hnil : entries = []
  · exact .inl hnil
  right
  cases hvalue : Entries.find? "value" entries with
  | some v => exact .inl ⟨_, .value hvalue⟩
  | none =>
    by_cases hindex : AsksIndex entries
    · exact .inl ⟨_, .index hvalue hindex⟩
    · by_cases hfield : ∃ text, Entries.find? "field" entries = some (.str text)
      · obtain ⟨text, hfield⟩ := hfield
        exact .inl ⟨_, .field hvalue hindex hfield⟩
      · exact .inr ⟨hnil, hvalue, hindex, fun text h => hfield ⟨text, h⟩⟩

theorem Denotes.ne_nil (h : Denotes entries denoted) : entries ≠ [] := by
  rintro rfl
  cases h with
  | value h => cases h
  | index _ hindex => obtain ⟨flag, h, -⟩ := hindex; cases h
  | field _ _ hfield => cases hfield

/-- The keys of an object that is not empty, in the order in which they are looked for. -/
theorem specOfJson_obj (hne : entries ≠ []) :
    Spec.ofJson (.obj entries) =
      match Entries.find? "value" entries with
      | some constant => .ok (some (.value constant))
      | none =>
        if ((Entries.find? "index" entries).map Json.isTruthy).getD false then .ok (some .index)
        else
          match Entries.find? "field" entries with
          | some (.str path) => .ok (some (.field (Path.parse path)))
          | _ => .error (.unrecognizedSpec (.obj entries)) := by
  cases entries with
  | nil => exact absurd rfl hne
  | cons entry rest => rfl

theorem ofJson_of_denotes (h : Denotes entries denoted) :
    ofJson (some (.obj entries)) = .ok (compile denoted) := by
  have hspec : Spec.ofJson (.obj entries) = .ok (some denoted) := by
    rw [specOfJson_obj h.ne_nil]
    cases h with
    | value h => rw [h]
    | index hvalue hindex =>
      rw [hvalue]
      exact if_pos (asksIndex_iff.2 hindex)
    | field hvalue hindex hfield =>
      rw [hvalue, hfield]
      exact if_neg (mt asksIndex_iff.1 hindex)
  unfold ofJson
  simp only [hspec]
  rfl

theorem ofJson_of_unusable (h : Unusable entries) :
    ofJson (some (.obj entries)) = .error (.unrecognizedSpec (.obj entries)) := by
  have hspec : Spec.ofJson (.obj entries) = .error (.unrecognizedSpec (.obj entries)) := by
    rw [specOfJson_obj h.ne_nil, h.value_none]
    refine (if_neg (mt asksIndex_iff.1 h.not_asksIndex)).trans ?_
    have hfield := h.field_ne
    split
    · next text htext => exact absurd htext (hfield text)
    · rfl
  unfold ofJson
  simp only [hspec]
  rfl

/-- The undefined accessor stands for all that is no object. -/
theorem ofJson_of_noObject {spec : Json} (h : ∀ entries, spec ≠ .obj entries) :
    ofJson (some spec) = .ok undefined := by
  cases spec with
  | obj entries => exact absurd rfl (h entries)
  | _ => rfl

/-! ## Calling -/

theorem call_field (path : Path) (record : Json) (index : Option Nat) :
    (compile (.field path)).call record index = .ok (path.resolve? record) := by
  cases path <;> rfl

theorem answers_of_denotes (h : Denotes entries denoted) (record : Json) (index : Option Nat) :
    Answers (some (.obj entries)) record index ((compile denoted).call record index) := by
  cases h with
  | value h => exact .constant h
  | index hvalue hindex => exact .position hvalue hindex
  | field hvalue hindex hfield =>
    next text =>
    rw [call_field]
    by_cases htext : text = "."
    · subst htext
      exact .whole hvalue hindex hfield
    · exact .path hvalue hindex hfield htext

/-- A call fails for the undefined accessor and for no other. -/
theorem call_eq_error {a : Accessor} {record : Json} {index : Option Nat} {fault : Fault} :
    a.call record index = .error fault ↔ a.isUndefined = true ∧ fault = .undefinedAccessor := by
  unfold call
  cases a.isUndefined <;> simp [eq_comm]

/-- What compiling a spec can come to. -/
theorem ofJson_cases (spec : Option Json) :
    (ofJson spec = .ok undefined ∧
      ∀ record index, Answers spec record index (.error .undefinedAccessor)) ∨
    (∃ entries denoted, spec = some (.obj entries) ∧ Denotes entries denoted ∧
      ofJson spec = .ok (compile denoted)) ∨
    ∃ entries, spec = some (.obj entries) ∧ Unusable entries ∧
      ofJson spec = .error (.unrecognizedSpec (.obj entries)) := by
  cases spec with
  | none => exact .inl ⟨rfl, fun _ _ => .missing⟩
  | some spec =>
    by_cases hobject : ∃ entries, spec = .obj entries
    · obtain ⟨entries, rfl⟩ := hobject
      rcases denotes_or_unusable entries with rfl | ⟨denoted, hdenoted⟩ | hunusable
      · exact .inl ⟨rfl, fun _ _ => .empty⟩
      · exact .inr (.inl ⟨entries, denoted, rfl, hdenoted, ofJson_of_denotes hdenoted⟩)
      · exact .inr (.inr ⟨entries, rfl, hunusable, ofJson_of_unusable hunusable⟩)
    · have hnot : ∀ entries, spec ≠ .obj entries := fun entries h => hobject ⟨entries, h⟩
      exact .inl ⟨ofJson_of_noObject hnot, fun _ _ => .noObject hnot⟩

theorem exists_call_iff_answers {spec : Option Json} {record : Json} {index : Option Nat}
    {result : Except Fault (Option Json)} :
    (∃ a, ofJson spec = .ok a ∧ a.call record index = result) ↔
      Answers spec record index result := by
  constructor
  · rintro ⟨a, ha, rfl⟩
    rcases ofJson_cases spec with ⟨h, hanswers⟩ | ⟨entries, denoted, rfl, hdenoted, h⟩ |
      ⟨entries, rfl, -, h⟩
    · cases h.symm.trans ha
      exact hanswers record index
    · cases h.symm.trans ha
      exact answers_of_denotes hdenoted record index
    · cases h.symm.trans ha
  · intro h
    cases h with
    | missing => exact ⟨undefined, rfl, rfl⟩
    | noObject h => exact ⟨undefined, ofJson_of_noObject h, rfl⟩
    | empty => exact ⟨undefined, rfl, rfl⟩
    | constant h => exact ⟨_, ofJson_of_denotes (.value h), rfl⟩
    | position hvalue hindex => exact ⟨_, ofJson_of_denotes (.index hvalue hindex), rfl⟩
    | whole hvalue hindex hfield => exact ⟨_, ofJson_of_denotes (.field hvalue hindex hfield), rfl⟩
    | path hvalue hindex hfield htext =>
      exact ⟨_, ofJson_of_denotes (.field hvalue hindex hfield), call_field _ _ _⟩

theorem ofJson_eq_error {spec : Option Json} {fault : Fault} :
    ofJson spec = .error fault ↔
      ∃ entries, spec = some (.obj entries) ∧ Unusable entries ∧
        fault = .unrecognizedSpec (.obj entries) := by
  constructor
  · intro hfault
    rcases ofJson_cases spec with ⟨h, -⟩ | ⟨entries, denoted, rfl, -, h⟩ |
      ⟨entries, rfl, hunusable, h⟩
    · cases h.symm.trans hfault
    · cases h.symm.trans hfault
    · cases h.symm.trans hfault
      exact ⟨entries, rfl, hunusable, rfl⟩
  · rintro ⟨entries, rfl, hunusable, rfl⟩
    exact ofJson_of_unusable hunusable

/-! ## Keys that do not matter -/

/-- Do two objects have the same entries under the keys of a spec? -/
def Agree (entries others : List (String × Json)) : Prop :=
  ∀ key ∈ ["value", "index", "field"], Entries.find? key entries = Entries.find? key others

theorem Denotes.of_agree (h : Denotes entries denoted) (hagree : Agree entries others) :
    Denotes others denoted := by
  have hvalue := hagree "value" (by decide)
  have hindex : AsksIndex entries ↔ AsksIndex others := by
    unfold AsksIndex
    rw [hagree "index" (by decide)]
  have hfield := hagree "field" (by decide)
  cases h with
  | value h => exact .value (hvalue ▸ h)
  | index h hasks => exact .index (hvalue ▸ h) (hindex.1 hasks)
  | field h hasks htext => exact .field (hvalue ▸ h) (mt hindex.2 hasks) (hfield ▸ htext)

theorem ofJson_of_agree (hne : entries ≠ []) (hagree : Agree entries others) {a : Accessor}
    (h : ofJson (some (.obj entries)) = .ok a) : ofJson (some (.obj others)) = .ok a := by
  rcases denotes_or_unusable entries with hnil | ⟨denoted, hdenoted⟩ | hunusable
  · exact absurd hnil hne
  · rw [ofJson_of_denotes hdenoted] at h
    rw [ofJson_of_denotes (hdenoted.of_agree hagree), h]
  · rw [ofJson_of_unusable hunusable] at h
    cases h

/-- **Compiling and calling agrees with the meaning of the spec.**  A spec is refused exactly if it
is unusable; a call fails only for the undefined accessor; and no key but the three of a spec has an
influence on the accessor. -/
theorem ofJson_call_agrees :
    (∀ spec record index result,
      (∃ a, ofJson spec = .ok a ∧ a.call record index = result) ↔
        Answers spec record index result) ∧
    (∀ spec fault, ofJson spec = .error fault ↔
      ∃ entries, spec = some (.obj entries) ∧ Unusable entries ∧
        fault = .unrecognizedSpec (.obj entries)) ∧
    (∀ (a : Accessor) record index,
      (∃ fault, a.call record index = .error fault) ↔ a.isUndefined = true) ∧
    ∀ entries others, entries ≠ [] → others ≠ [] → Agree entries others →
      ∀ a, ofJson (some (.obj entries)) = .ok a →
        ∃ b, ofJson (some (.obj others)) = .ok b ∧ b.kind = a.kind ∧
          ∀ record index, b.call record index = a.call record index := by
  refine ⟨fun _ _ _ _ => exists_call_iff_answers, fun _ _ => ofJson_eq_error, ?_, ?_⟩
  · intro a record index
    constructor
    · rintro ⟨fault, h⟩
      exact (call_eq_error.1 h).1
    · intro h
      exact ⟨.undefinedAccessor, call_eq_error.2 ⟨h, rfl⟩⟩
  · intro entries others hne _ hagree a h
    exact ⟨a, ofJson_of_agree hne hagree h, rfl, fun _ _ => rfl⟩

/-- An index of `-0.0` is passed over, the plus sign in a segment is read, and an unknown key has no
influence. -/
theorem call_negative_zero_index :
    Answers (some (.obj [("field", .str "a.+1"), ("index", .num (.float ⟨true, 0⟩))]))
        (.obj [("a", .arr [.null, .bool false])]) (some 7) (.ok (some (.bool false))) ∧
      Unusable [("field", .null), ("index", .str "")] ∧
      ∃ b, ofJson (some (.obj [("size", .null), ("field", .str "a.+1"),
          ("index", .num (.float ⟨true, 0⟩))])) = .ok b ∧ b.kind = .field "a.+1" := by
  have hok : ofJson (some (.obj [("field", .str "a.+1"), ("index", .num (.float ⟨true, 0⟩))])) =
      .ok (compile (.field (Path.parse "a.+1"))) := rfl
  have hrefused : ofJson (some (.obj [("field", .null), ("index", .str "")])) =
      .error (.unrecognizedSpec (.obj [("field", .null), ("index", .str "")])) := rfl
  have hagree : Agree [("field", .str "a.+1"), ("index", .num (.float ⟨true, 0⟩))]
      [("size", .null), ("field", .str "a.+1"), ("index", .num (.float ⟨true, 0⟩))] := by
    intro key hkey
    simp only [List.mem_cons, List.not_mem_nil, or_false] at hkey
    rcases hkey with rfl | rfl | rfl <;> rfl
  obtain ⟨hanswers, hunusable, -, hother⟩ := ofJson_call_agrees
  refine ⟨(hanswers _ _ _ _).1 ⟨_, hok, rfl⟩, ?_, ?_⟩
  · obtain ⟨entries, hspec, h, -⟩ := (hunusable _ _).1 hrefused
    cases hspec
    exact h
  · obtain ⟨b, hb, hkind, -⟩ := hother _ _ (by simp) (by simp) hagree _ hok
    exact ⟨b, hb, hkind⟩

end PluginKit.Accessor
