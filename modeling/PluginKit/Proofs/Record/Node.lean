import PluginKit.Proofs.Accessor.Meaning
import PluginKit.Proofs.Json.Keys
import PluginKit.Proofs.Record.Path
import PluginKit.Proofs.Text.Numeral

/-!
# The nodes of a record

A node is what a record holds at a position, a list of keys and of indices.  A path leads to a node
if each of its segments names one place of the position: a key at an object, and at an array an
index as a numeral, with or without a plus sign before it:

    (parse text).resolve? record = some v →
      ∃ position, Named (segmentsOf text) position ∧ IsNode record position v  (exists_node_of_resolve?)
    IsNode record position v → (parse position.text).resolve? record = some v  (resolve?_text)

The second asks for keys without points and for the record to have each key once in an object.  The
position of two empty keys has no path: its text is that of the whole record.
-/

namespace PluginKit

open Json (KeysOnce)

/-! ## Positions -/

/-- One place of a position. -/
inductive Place
  /-- The entry of an object under a key. -/
  | key (name : String)
  /-- The item of an array with a number. -/
  | index (i : Nat)
  deriving DecidableEq, Repr

/-- The value stands at a position of a record. -/
inductive IsNode : Json → List Place → Json → Prop
  | root (record : Json) : IsNode record [] record
  | entry {entries : List (String × Json)} {name : String} {value v : Json} {position : List Place}
      (hmem : (name, value) ∈ entries) (hrest : IsNode value position v) :
      IsNode (.obj entries) (.key name :: position) v
  | item {items : List Json} {i : Nat} {value v : Json} {position : List Place}
      (hitem : items[i]? = some value) (hrest : IsNode value position v) :
      IsNode (.arr items) (.index i :: position) v

/-- A segment that gives a number: a numeral, with or without a plus sign before it. -/
inductive IsPosition : String → Nat → Prop
  | plain {segment : String} (h : Numeral.IsNumeral segment.toList) :
      IsPosition segment (Numeral.value segment.toList)
  | plus {segment : String} {digits : List Char} (hsegment : segment.toList = '+' :: digits)
      (h : Numeral.IsNumeral digits) : IsPosition segment (Numeral.value digits)

/-- The place that a segment names: at an object its key, at an array the index that it gives. -/
inductive Names : String → Place → Prop
  | key (name : String) : Names name (.key name)
  | index {segment : String} {i : Nat} (h : IsPosition segment i) : Names segment (.index i)

namespace Place

/-- The segment that a place is written as. -/
def segment : Place → String
  | .key name => name
  | .index i => String.ofList (Numeral.write i)

/-- The text of a position: its segments with points between them, or a point alone. -/
def text (position : List Place) : String :=
  if position = [] then "." else Path.render (.segments (position.map segment))

theorem names_segment (place : Place) : Names place.segment place := by
  cases place with
  | key name => exact .key name
  | index i =>
    refine .index ?_
    have hvalue : Numeral.value (segment (.index i)).toList = i := by
      rw [segment, String.toList_ofList, Numeral.value_write]
    have hplain : IsPosition (segment (.index i)) (Numeral.value (segment (.index i)).toList) := by
      refine .plain ?_
      rw [segment, String.toList_ofList]
      exact Numeral.isNumeral_write i
    rwa [hvalue] at hplain

/-- Only a key has a segment with a point in it. -/
theorem point_not_mem_segment {place : Place} (h : ∀ name, place = .key name → '.' ∉ name.toList) :
    '.' ∉ place.segment.toList := by
  cases place with
  | key name => exact h name rfl
  | index i =>
    rw [segment, String.toList_ofList]
    exact (Numeral.isNumeral_write i).not_mem (by decide)

theorem segment_ne_empty_of_index (i : Nat) : segment (.index i) ≠ "" := by
  intro h
  have hlist := congrArg String.toList h
  rw [segment, String.toList_ofList] at hlist
  exact Numeral.write_ne_nil i hlist

end Place

variable {record value v : Json} {name : String} {names : List String} {position : List Place}

namespace Path

/-! ## One step -/

theorem position?_eq_some_iff {segment : String} {i : Nat} :
    position? segment = some i ↔ IsPosition segment i := by
  unfold position?
  constructor
  · intro h
    split at h
    · next digits hsegment =>
      obtain ⟨hnumeral, rfl⟩ := Numeral.read?_eq_some_iff.1 h
      exact .plus hsegment hnumeral
    · obtain ⟨hnumeral, rfl⟩ := Numeral.read?_eq_some_iff.1 h
      exact .plain hnumeral
  · intro h
    cases h with
    | plain hnumeral =>
      split
      · next digits hsegment =>
        have hplus : '+' ∉ segment.toList := hnumeral.not_mem (by decide)
        rw [hsegment] at hplus
        exact absurd List.mem_cons_self hplus
      · exact Numeral.read?_eq_some_iff.2 ⟨hnumeral, rfl⟩
    | plus hsegment hnumeral =>
      rw [hsegment]
      exact Numeral.read?_eq_some_iff.2 ⟨hnumeral, rfl⟩

/-- A step goes to the place that the segment names. -/
theorem exists_place_of_step? (h : step? record name = some value) :
    ∃ place, Names name place ∧ IsNode record [place] value := by
  cases record with
  | obj entries =>
    exact ⟨.key name, .key name, .entry (Entries.mem_of_find?_eq_some h) (.root value)⟩
  | arr items =>
    obtain ⟨i, hposition, hitem⟩ := Option.bind_eq_some_iff.1 h
    exact ⟨.index i, .index (position?_eq_some_iff.1 hposition), .item hitem (.root value)⟩
  | _ => cases h

theorem step?_of_node {place : Place} (hrecord : KeysOnce record) (hname : Names name place)
    (h : IsNode record [place] value) : step? record name = some value := by
  cases h with
  | entry hmem hrest =>
    cases hrest
    cases hname
    exact Entries.find?_eq_some_of_mem hrecord.nodup hmem
  | item hitem hrest =>
    cases hrest
    cases hname with
    | index hposition =>
      exact Option.bind_eq_some_iff.2 ⟨_, position?_eq_some_iff.2 hposition, hitem⟩

/-! ## Whole paths -/

theorem resolve?_cons (name : String) (names : List String) (record : Json) :
    resolve? (.segments (name :: names)) record =
      (step? record name).bind (resolve? (.segments names)) :=
  rfl

end Path

theorem IsNode.cons {place : Place} (hfirst : IsNode record [place] value)
    (hrest : IsNode value position v) : IsNode record (place :: position) v := by
  cases hfirst with
  | entry hmem hroot => cases hroot; exact .entry hmem hrest
  | item hitem hroot => cases hroot; exact .item hitem hrest

theorem IsNode.uncons {place : Place} (h : IsNode record (place :: position) v) :
    ∃ value, IsNode record [place] value ∧ IsNode value position v := by
  cases h with
  | entry hmem hrest => exact ⟨_, .entry hmem (.root _), hrest⟩
  | item hitem hrest => exact ⟨_, .item hitem (.root _), hrest⟩

theorem IsNode.keysOnce (hrecord : KeysOnce record) (h : IsNode record position v) :
    KeysOnce v := by
  induction h with
  | root record => exact hrecord
  | entry hmem _ ih => exact ih (hrecord.of_mem_entries hmem)
  | item hitem _ ih => exact ih (hrecord.of_mem_items (List.mem_of_getElem? hitem))

namespace Path

/-- What a path leads to stands at a position that its segments name, one place each. -/
theorem exists_node_of_resolve? (h : resolve? (.segments names) record = some v) :
    ∃ position, List.Forall₂ Names names position ∧ IsNode record position v := by
  induction names generalizing record with
  | nil =>
    cases h
    exact ⟨[], .nil, .root _⟩
  | cons name names ih =>
    rw [resolve?_cons] at h
    obtain ⟨value, hstep, h⟩ := Option.bind_eq_some_iff.1 h
    obtain ⟨place, hname, hfirst⟩ := exists_place_of_step? hstep
    obtain ⟨position, hnames, hrest⟩ := ih h
    exact ⟨place :: position, .cons hname hnames, hfirst.cons hrest⟩

/-- The segments that name the places of a position lead to what stands there. -/
theorem resolve?_of_node (hrecord : KeysOnce record) (hnames : List.Forall₂ Names names position)
    (h : IsNode record position v) : resolve? (.segments names) record = some v := by
  induction hnames generalizing record with
  | nil =>
    cases h
    rfl
  | cons hname _ ih =>
    obtain ⟨value, hfirst, hrest⟩ := h.uncons
    rw [resolve?_cons, step?_of_node hrecord hname hfirst]
    exact ih (hfirst.keysOnce hrecord) hrest

theorem names_segments (position : List Place) :
    List.Forall₂ Names (position.map Place.segment) position := by
  induction position with
  | nil => exact .nil
  | cons place position ih => exact .cons place.names_segment ih

/-- Two places with empty segments are two empty keys. -/
theorem segments_ne (h : position ≠ [.key "", .key ""]) :
    position.map Place.segment ≠ ["", ""] := by
  intro hsegments
  obtain ⟨first, rest, rfl, hfirst, hrest⟩ := List.map_eq_cons_iff.1 hsegments
  obtain ⟨second, rest, rfl, hsecond, hnil⟩ := List.map_eq_cons_iff.1 hrest
  rw [List.map_eq_nil_iff.1 hnil] at h
  cases first with
  | index i => exact Place.segment_ne_empty_of_index i hfirst
  | key one =>
    cases second with
    | index i => exact Place.segment_ne_empty_of_index i hsecond
    | key other =>
      obtain rfl : one = "" := hfirst
      obtain rfl : other = "" := hsecond
      exact h rfl

/-- The text of a position is the path to what stands there. -/
theorem resolve?_text (hrecord : KeysOnce record) (h : IsNode record position v)
    (hpoint : ∀ name, .key name ∈ position → '.' ∉ name.toList)
    (hempty : position ≠ [.key "", .key ""]) :
    (parse (Place.text position)).resolve? record = some v := by
  unfold Place.text
  split
  · next hnil =>
    subst hnil
    cases h
    rfl
  · next hne =>
    have hsegment : ∀ segment ∈ position.map Place.segment, '.' ∉ segment.toList := by
      intro segment hmem
      obtain ⟨place, hplace, rfl⟩ := List.mem_map.1 hmem
      exact Place.point_not_mem_segment fun name heq => hpoint name (heq ▸ hplace)
    rw [parse_segments (by simpa using hne) hsegment (segments_ne hempty)]
    exact resolve?_of_node hrecord (names_segments position) h

/-- The position of two empty keys has the text of the whole record. -/
example :
    let record : Json := .obj [("", .obj [("", .bool true)])]
    IsNode record [.key "", .key ""] (.bool true) ∧
      (parse (Place.text [.key "", .key ""])).resolve? record = some record :=
  ⟨.entry List.mem_cons_self (.entry List.mem_cons_self (.root _)), rfl⟩

/-- **Paths lead to the nodes of a record and to nothing else.**  What a path leads to is the one
node at a position that its segments name; where there is none, the accessor of the path gives
nothing; and the text of a position leads to the node there.  A record that is read from a text has
each key once in an object. -/
theorem paths_lead_to_nodes :
    (∀ text record v, text ≠ "." → (parse text).resolve? record = some v →
      (∃ position, List.Forall₂ Names (segmentsOf text) position ∧ IsNode record position v) ∧
      (KeysOnce record → ∀ position w, List.Forall₂ Names (segmentsOf text) position →
        IsNode record position w → w = v)) ∧
    (∀ text record, text ≠ "." →
      (¬ ∃ position v, List.Forall₂ Names (segmentsOf text) position ∧ IsNode record position v) →
        (parse text).resolve? record = none ∧
        ∀ index, (Accessor.compile (.field (parse text))).call record index = .ok none) ∧
    (∀ record position v, KeysOnce record → IsNode record position v →
      (∀ name, .key name ∈ position → '.' ∉ name.toList) → position ≠ [.key "", .key ""] →
        (parse (Place.text position)).resolve? record = some v) ∧
    ∀ text record, Json.parse? text = some record → KeysOnce record := by
  refine ⟨?_, ?_, ?_, ?_⟩
  · intro text record v htext h
    rw [parse_of_ne htext] at h
    refine ⟨exists_node_of_resolve? h, fun hrecord position w hnames hnode => ?_⟩
    exact Option.some.inj ((resolve?_of_node hrecord hnames hnode).symm.trans h)
  · intro text record htext hnone
    have hresolve : (parse text).resolve? record = none := by
      rw [parse_of_ne htext]
      cases h : resolve? (.segments (segmentsOf text)) record with
      | none => rfl
      | some v =>
        obtain ⟨position, hnames, hnode⟩ := exists_node_of_resolve? h
        exact absurd ⟨position, v, hnames, hnode⟩ hnone
    refine ⟨hresolve, fun index => ?_⟩
    rw [Accessor.call_field, hresolve]
  · intro record position v hrecord hnode hpoint hempty
    exact resolve?_text hrecord hnode hpoint hempty
  · intro text record h
    exact Json.keysOnce_of_parse? h

/-- A key of digits at an object, and an index with a plus sign and a zero at an array. -/
theorem path_with_signed_index :
    let record : Json := .obj [("7", .arr [.null, .bool true])]
    (∃ position, List.Forall₂ Names ["7", "+01"] position ∧
        IsNode record position (.bool true)) ∧
      (parse "7.1").resolve? record = some (.bool true) ∧
      (parse "7.2").resolve? record = none := by
  intro record
  obtain ⟨hsound, hnone, hcomplete, hparsed⟩ := paths_lead_to_nodes
  have hread : Json.parse? "\x7b\"7\":[null,true]\x7d" = some record := rfl
  have hnode : IsNode record [.key "7", .index 1] (.bool true) :=
    .entry List.mem_cons_self (.item rfl (.root _))
  refine ⟨?_, ?_, ?_⟩
  · exact (hsound "7.+01" record (.bool true) (by decide) rfl).1
  · refine hcomplete record _ _ (hparsed _ _ hread) hnode ?_ (by decide)
    simp
  · refine (hnone "7.2" record (by decide) ?_).1
    rintro ⟨position, v, hnames, hnode⟩
    have hlead := resolve?_of_node (hparsed _ _ hread) hnames hnode
    cases hlead

end Path

end PluginKit
