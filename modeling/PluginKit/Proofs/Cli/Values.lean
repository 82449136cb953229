import PluginKit.Cli.Transcript
import PluginKit.Proofs.Accessor.Kind
import PluginKit.Proofs.Outcome

/-!
# Values of records

An accessor is called for each record of a list with its position.  The values are as many as the
records, and each is what the call gives, or null where it gives nothing:

    valuesOf a (.arr items) = .ok values ↔ values.length = items.length ∧
      ∀ i, values[i] is what a.call items[i] (some i) gives                   (valuesFrom_eq_ok)

    valuesOf a records = .error fault ↔
      a.isUndefined = true ∧ records ≠ .arr [] ∧ fault = .undefinedAccessor  (valuesOf_eq_error)

Records behind others keep their values if the accessor does not ask for positions; the one kind of
spec that does gives the positions themselves.
-/

namespace PluginKit.Cli.Transcript

open PluginKit.Outcome

variable {a : Accessor} {spec : Option Json} {record : Json} {items values : List Json}
  {start : Nat}

/-! ## One record -/

/-- The value for a record at a position. -/
def valueAt (a : Accessor) (record : Json) (position : Nat) : Except Fault Json := do
  return (← a.call record (some position)).getD .null

theorem valueAt_eq_ok {position : Nat} {value : Json} :
    valueAt a record position = .ok value ↔
      ∃ found, a.call record (some position) = .ok found ∧ value = found.getD .null := by
  unfold valueAt
  rw [bind_eq_ok]
  constructor <;> rintro ⟨found, hfound, h⟩
  · exact ⟨found, hfound, (Except.ok.inj h).symm⟩
  · exact ⟨found, hfound, congrArg Except.ok h.symm⟩

/-- A record fails for the undefined accessor and for no other. -/
theorem valueAt_eq_error {position : Nat} {fault : Fault} :
    valueAt a record position = .error fault ↔
      a.isUndefined = true ∧ fault = .undefinedAccessor := by
  unfold valueAt
  rw [bind_eq_error, Accessor.call_eq_error]
  constructor
  · rintro (h | ⟨_, -, h⟩)
    · exact h
    · cases h
  · exact .inl

/-! ## Records from a position on -/

/-- The values for records of which the first has this position. -/
def valuesFrom (a : Accessor) (items : List Json) (start : Nat) : Except Fault (List Json) :=
  (items.zipIdx start).mapM fun item => valueAt a item.1 item.2

/-- The records in a document: the items of a list, or the document itself. -/
def itemsOf : Json → List Json
  | .arr items => items
  | single => [single]

theorem valuesOf_eq_valuesFrom (a : Accessor) (records : Json) :
    valuesOf a records = valuesFrom a (itemsOf records) 0 := by
  cases records <;> rfl

theorem itemsOf_eq_nil {records : Json} : itemsOf records = [] ↔ records = .arr [] := by
  cases records <;> simp [itemsOf]

theorem itemsOf_of_ne_arr (h : ∀ items, record ≠ .arr items) : itemsOf record = [record] := by
  cases record with
  | arr items => exact absurd rfl (h items)
  | _ => rfl

theorem valuesFrom_eq_ok :
    valuesFrom a items start = .ok values ↔
      values.length = items.length ∧ ∀ i (h : i < items.length) (h' : i < values.length),
        ∃ found, a.call items[i] (some (start + i)) = .ok found ∧
          values[i] = found.getD .null := by
  unfold valuesFrom
  rw [mapM_eq_ok, List.forall₂_iff_get]
  simp only [List.length_zipIdx, List.get_eq_getElem, List.getElem_zipIdx, valueAt_eq_ok]
  exact and_congr_left' eq_comm

theorem valuesFrom_append (a : Accessor) (first second : List Json) (start : Nat) :
    valuesFrom a (first ++ second) start = do
      return (← valuesFrom a first start) ++ (← valuesFrom a second (start + first.length)) := by
  unfold valuesFrom
  rw [List.zipIdx_append, List.mapM_append]

theorem valuesFrom_eq_error {fault : Fault} :
    valuesFrom a items start = .error fault ↔
      a.isUndefined = true ∧ items ≠ [] ∧ fault = .undefinedAccessor := by
  unfold valuesFrom
  rw [mapM_eq_error]
  constructor
  · rintro ⟨before, item, after, hsplit, -, hitem⟩
    obtain ⟨hundefined, rfl⟩ := valueAt_eq_error.1 hitem
    refine ⟨hundefined, ?_, rfl⟩
    rintro rfl
    exact List.append_ne_nil_of_right_ne_nil before (List.cons_ne_nil item after) hsplit.symm
  · rintro ⟨hundefined, hne, rfl⟩
    cases items with
    | nil => exact absurd rfl hne
    | cons record rest =>
      exact ⟨[], (record, start), _, rfl, by simp, valueAt_eq_error.2 ⟨hundefined, rfl⟩⟩

theorem valuesOf_eq_error {records : Json} {fault : Fault} :
    valuesOf a records = .error fault ↔
      a.isUndefined = true ∧ records ≠ .arr [] ∧ fault = .undefinedAccessor := by
  rw [valuesOf_eq_valuesFrom, valuesFrom_eq_error, Ne, itemsOf_eq_nil]

/-! ## Positions -/

/-- The accessor gives the same for a record at every position. -/
def IgnoresPosition (a : Accessor) : Prop :=
  ∀ record i j, a.call record (some i) = a.call record (some j)

theorem ignoresPosition_of_ofJson (h : Accessor.ofJson spec = .ok a) (hkind : a.kind ≠ .index) :
    IgnoresPosition a := by
  intro record i j
  rcases Accessor.ofJson_cases spec with ⟨hspec, -⟩ | ⟨entries, denoted, -, hdenotes, hspec⟩ |
    ⟨entries, -, -, hspec⟩
  · cases hspec.symm.trans h
    rfl
  · cases hspec.symm.trans h
    cases hdenotes with
    | value _ => rfl
    | index _ _ => exact absurd rfl hkind
    | field _ _ _ => rw [Accessor.call_field, Accessor.call_field]
  · cases hspec.symm.trans h

theorem valuesFrom_of_ignoresPosition (h : IgnoresPosition a) (items : List Json)
    (start start' : Nat) : valuesFrom a items start = valuesFrom a items start' := by
  have hvalue : ∀ record i j, valueAt a record i = valueAt a record j := by
    intro record i j
    unfold valueAt
    rw [h record i j]
  unfold valuesFrom
  induction items generalizing start start' with
  | nil => rfl
  | cons record rest ih =>
    rw [List.zipIdx_cons, List.zipIdx_cons, List.mapM_cons, List.mapM_cons,
      hvalue record start start', ih (start + 1) (start' + 1)]

theorem call_of_index (h : Accessor.ofJson spec = .ok a) (hkind : a.kind = .index)
    (record : Json) (index : Option Nat) : a.call record index = .ok (index.map Json.ofNat) := by
  have hfaithful : a.Promises a.kind := Accessor.faithful_of_ofJson h
  rw [hkind] at hfaithful
  exact hfaithful record index

/-! ## All records -/

/-- **The values of records are what the accessor gives at their positions**, with null for each
record that has none.  Only the undefined accessor fails, and it fails as soon as there is a record.
The values of a list are those of its parts, one after the other, unless they are its positions. -/
theorem values_at_positions (h : Accessor.ofJson spec = .ok a) :
    (a.isUndefined = false → ∀ records, ∃ values, valuesOf a records = .ok values) ∧
    (∀ items values, valuesOf a (.arr items) = .ok values ↔
      values.length = items.length ∧ ∀ i (h : i < items.length) (h' : i < values.length),
        ∃ found, a.call items[i] (some i) = .ok found ∧ values[i] = found.getD .null) ∧
    (∀ record, (∀ items, record ≠ .arr items) →
      valuesOf a record = valuesOf a (.arr [record])) ∧
    (a.isUndefined = true → valuesOf a (.arr []) = .ok [] ∧
      ∀ records, records ≠ .arr [] → valuesOf a records = .error .undefinedAccessor) ∧
    (a.kind ≠ .index → ∀ first second, valuesOf a (.arr (first ++ second)) = do
      return (← valuesOf a (.arr first)) ++ (← valuesOf a (.arr second))) ∧
    (a.kind = .index → ∀ items, valuesOf a (.arr items) =
      .ok ((List.range items.length).map fun i : Nat => .num (.int i))) := by
  refine ⟨?_, ?_, ?_, ?_, ?_, ?_⟩
  · intro hdefined records
    cases hvalues : valuesOf a records with
    | ok values => exact ⟨values, rfl⟩
    | error fault =>
      rw [(valuesOf_eq_error.1 hvalues).1] at hdefined
      cases hdefined
  · intro items values
    rw [valuesOf_eq_valuesFrom, itemsOf, valuesFrom_eq_ok]
    simp only [Nat.zero_add]
  · intro record hrecord
    rw [valuesOf_eq_valuesFrom, valuesOf_eq_valuesFrom, itemsOf_of_ne_arr hrecord]
    rfl
  · intro hundefined
    exact ⟨rfl, fun records hne => valuesOf_eq_error.2 ⟨hundefined, hne, rfl⟩⟩
  · intro hkind first second
    simp only [valuesOf_eq_valuesFrom, itemsOf]
    rw [valuesFrom_append,
      valuesFrom_of_ignoresPosition (ignoresPosition_of_ofJson h hkind) second _ 0]
  · intro hkind items
    rw [valuesOf_eq_valuesFrom, itemsOf, valuesFrom_eq_ok]
    refine ⟨by rw [List.length_map, List.length_range], fun i _ _ => ?_⟩
    refine ⟨_, call_of_index h hkind items[i] (some (0 + i)), ?_⟩
    rw [List.getElem_map, List.getElem_range, Nat.zero_add]
    rfl

/-- A record without the field, one that is no object, and the position of each; and a single record
for no accessor. -/
theorem values_of_mixed_records :
    let records : List Json := [.obj [("a", .str "b")], .obj [], .null]
    let field : List (String × Json) := [("field", .str "a")]
    let index : List (String × Json) := [("index", .bool true), ("field", .str "a")]
    (∃ a, Accessor.ofJson (some (.obj field)) = .ok a ∧
      valuesOf a (.arr records) = .ok [.str "b", .null, .null]) ∧
    (∃ a, Accessor.ofJson (some (.obj index)) = .ok a ∧
      valuesOf a (.arr records) = .ok [.num (.int 0), .num (.int 1), .num (.int 2)]) ∧
    valuesOf .undefined .null = .error .undefinedAccessor := by
  intro records field index
  have hfield : Accessor.ofJson (some (.obj field)) =
      .ok (Accessor.compile (.field (Path.parse "a"))) := rfl
  have hindex : Accessor.ofJson (some (.obj index)) = .ok (Accessor.compile .index) := rfl
  have hmissing : Accessor.ofJson none = .ok .undefined := rfl
  obtain ⟨-, hvalues, -⟩ := values_at_positions hfield
  obtain ⟨-, -, -, -, -, hpositions⟩ := values_at_positions hindex
  obtain ⟨-, -, -, hfails, -⟩ := values_at_positions hmissing
  refine ⟨⟨_, hfield, (hvalues _ _).2 ⟨rfl, ?_⟩⟩, ⟨_, hindex, hpositions rfl records⟩,
    (hfails rfl).2 _ (by simp)⟩
  intro i hi _
  match i, hi with
  | 0, _ => exact ⟨_, rfl, rfl⟩
  | 1, _ => exact ⟨_, rfl, rfl⟩
  | 2, _ => exact ⟨_, rfl, rfl⟩

end PluginKit.Cli.Transcript
