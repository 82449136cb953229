import PluginKit.Proofs.Record.Node

/-!
# Values in their surroundings

A node of a record is what fills a gap in it.  The gap lies inside frames, from the record inwards,
each of which is a container without one of its values; and the places of the frames are the
position of the node:

    IsNode record position v ↔
      ∃ frames, frames.map Frame.place = position ∧ fill frames v = record  (isNode_iff_exists_fill)

What stands in the gap can be replaced by another value, and nothing else of the record changes.
-/

namespace PluginKit

/-- A container with a gap for one of its values. -/
inductive Frame
  /-- An array with the items before the gap and those after it. -/
  | item (before after : List Json)
  /-- An object with the entries before the gap, the key in front of it, and the entries after. -/
  | entry (before : List (String × Json)) (key : String) (after : List (String × Json))

namespace Frame

/-- The container with a value in its gap. -/
def plug : Frame → Json → Json
  | .item before after, v => .arr (before ++ v :: after)
  | .entry before key after, v => .obj (before ++ (key, v) :: after)

/-- The place of the gap. -/
def place : Frame → Place
  | .item before _ => .index before.length
  | .entry _ key _ => .key key

end Frame

/-- The record with a value in the gap that these frames surround, the outermost first. -/
def fill (frames : List Frame) (v : Json) : Json :=
  frames.foldr Frame.plug v

variable {record v : Json} {position : List Place}

theorem isNode_plug (frame : Frame) (v : Json) : IsNode (frame.plug v) [frame.place] v := by
  cases frame with
  | item before after =>
    have hgap : (before ++ v :: after)[before.length]? = some v := by
      rw [List.getElem?_append_right (Nat.le_refl _), Nat.sub_self, List.getElem?_cons_zero]
    exact .item hgap (.root v)
  | entry before key after => exact .entry List.mem_append_cons_self (.root v)

theorem exists_plug_item {items : List Json} {i : Nat} (h : items[i]? = some v) :
    ∃ frame : Frame, frame.place = .index i ∧ frame.plug v = .arr items := by
  obtain ⟨hlt, rfl⟩ := List.getElem?_eq_some_iff.1 h
  refine ⟨.item (items.take i) (items.drop (i + 1)), ?_, ?_⟩
  · exact congrArg Place.index (List.length_take_of_le (Nat.le_of_lt hlt))
  · rw [Frame.plug, List.getElem_cons_drop, List.take_append_drop]

theorem exists_plug_entry {entries : List (String × Json)} {key : String}
    (h : (key, v) ∈ entries) :
    ∃ frame : Frame, frame.place = .key key ∧ frame.plug v = .obj entries := by
  obtain ⟨before, after, rfl⟩ := List.append_of_mem h
  exact ⟨.entry before key after, rfl, rfl⟩

theorem exists_plug_of_isNode {place : Place} (h : IsNode record [place] v) :
    ∃ frame : Frame, frame.place = place ∧ frame.plug v = record := by
  cases h with
  | entry hmem hrest => cases hrest; exact exists_plug_entry hmem
  | item hitem hrest => cases hrest; exact exists_plug_item hitem

/-- The nodes of a record are what fills a gap in it. -/
theorem isNode_iff_exists_fill :
    IsNode record position v ↔
      ∃ frames, frames.map Frame.place = position ∧ fill frames v = record := by
  constructor
  · intro h
    induction position generalizing record with
    | nil =>
      cases h
      exact ⟨[], rfl, rfl⟩
    | cons place position ih =>
      obtain ⟨value, hfirst, hrest⟩ := h.uncons
      obtain ⟨frame, rfl, rfl⟩ := exists_plug_of_isNode hfirst
      obtain ⟨frames, rfl, rfl⟩ := ih hrest
      exact ⟨frame :: frames, rfl, rfl⟩
  · rintro ⟨frames, rfl, rfl⟩
    induction frames with
    | nil => exact .root v
    | cons frame frames ih => exact (isNode_plug frame (fill frames v)).cons ih

end PluginKit
