import Mathlib.Data.Set.Function
import PluginKit.Proofs.Text.Split
import PluginKit.Record.Path

/-!
# Reading and writing paths

A path is written as the text that it is read from, and the segments of a text that joins names
without points are these names:

    (parse text).render = text                                                 (render_parse)
    segmentsOf (render (.segments names)) = names                      (segmentsOf_segments)

The text `.` is read as the whole record, so it is the one text whose segments are never looked at.
Reading is therefore a bijection of all texts onto the paths with names without points, of which two
empty names are not one (`parse_bijOn_readable`).
-/

namespace PluginKit.Path

/-- The segments of a text, with points between them. -/
def segmentsOf (text : String) : List String :=
  (text.toList.splitOn '.').map String.ofList

/-- The paths that some text is read as.  Two empty names would have the text of the whole record. -/
inductive Readable : Path → Prop
  | whole : Readable .whole
  | segments {names : List String} (hne : names ≠ [])
      (hpoint : ∀ name ∈ names, '.' ∉ name.toList) (hpair : names ≠ ["", ""]) :
      Readable (.segments names)

theorem parse_of_ne {text : String} (h : text ≠ ".") : parse text = .segments (segmentsOf text) := by
  unfold parse
  rw [if_neg]
  · rfl
  · intro hlist
    exact h (String.toList_injective hlist)

theorem render_segments (names : List String) :
    render (.segments names) = String.ofList (['.'].intercalate (names.map String.toList)) :=
  rfl

theorem render_segmentsOf (text : String) : render (.segments (segmentsOf text)) = text := by
  have hparts : ((text.toList.splitOn '.').map String.ofList).map String.toList =
      text.toList.splitOn '.' := by
    rw [List.map_map]
    exact (List.map_congr_left fun _ _ => String.toList_ofList).trans (List.map_id' _)
  unfold segmentsOf
  rw [render_segments, hparts, List.intercalate_splitOn, String.ofList_toList]

/-- A path is written as the text that it is read from. -/
theorem render_parse (text : String) : (parse text).render = text := by
  by_cases h : text = "."
  · subst h
    rfl
  · rw [parse_of_ne h, render_segmentsOf]

theorem segmentsOf_segments {names : List String} (hne : names ≠ [])
    (hpoint : ∀ name ∈ names, '.' ∉ name.toList) :
    segmentsOf (render (.segments names)) = names := by
  unfold segmentsOf
  have hparts : ∀ part ∈ names.map String.toList, '.' ∉ part := by
    intro part hmem
    obtain ⟨name, hname, rfl⟩ := List.mem_map.1 hmem
    exact hpoint name hname
  rw [render_segments, String.toList_ofList,
    List.splitOn_intercalate '.' hparts (by simpa using hne), List.map_map]
  exact (List.map_congr_left fun _ _ => String.ofList_toList).trans (List.map_id' names)

/-- Names without points are the segments of their text, unless this is read as the whole record. -/
theorem parse_segments {names : List String} (hne : names ≠ [])
    (hpoint : ∀ name ∈ names, '.' ∉ name.toList) (hempty : names ≠ ["", ""]) :
    parse (render (.segments names)) = .segments names := by
  have hsegments := segmentsOf_segments hne hpoint
  rw [parse_of_ne, hsegments]
  intro htext
  rw [htext] at hsegments
  exact hempty hsegments.symm

/-! ## What texts are read as -/

theorem segmentsOf_ne_nil (text : String) : segmentsOf text ≠ [] := by
  unfold segmentsOf
  rw [ne_eq, List.map_eq_nil_iff]
  exact List.splitOn_ne_nil _ _

theorem point_not_mem_of_mem_segmentsOf {text name : String} (h : name ∈ segmentsOf text) :
    '.' ∉ name.toList := by
  obtain ⟨part, hmem, rfl⟩ := List.mem_map.1 h
  rw [String.toList_ofList]
  exact Split.not_mem_of_mem_splitOn hmem

theorem segmentsOf_ne_pair {text : String} (h : text ≠ ".") : segmentsOf text ≠ ["", ""] := by
  intro hpair
  have hrender := render_segmentsOf text
  rw [hpair] at hrender
  exact h hrender.symm

theorem readable_parse (text : String) : Readable (parse text) := by
  by_cases h : text = "."
  · subst h
    exact .whole
  · rw [parse_of_ne h]
    exact .segments (segmentsOf_ne_nil text) (fun _ => point_not_mem_of_mem_segmentsOf)
      (segmentsOf_ne_pair h)

/-- A path is read back from what is written for it. -/
theorem parse_render {path : Path} (h : Readable path) : parse path.render = path := by
  cases h with
  | whole => rfl
  | segments hne hpoint hpair => exact parse_segments hne hpoint hpair

/-- **Reading and writing undo each other.**  Reading is a bijection of all texts onto the readable
paths, and these are the paths that are read back from what is written for them. -/
theorem parse_bijOn_readable :
    Set.BijOn parse Set.univ {path | Readable path} ∧
      (∀ text, (parse text).render = text) ∧
      ∀ path, parse path.render = path ↔ Readable path := by
  refine ⟨?_, render_parse, fun path => ⟨fun h => ?_, parse_render⟩⟩
  · have hinverse : Set.InvOn render parse Set.univ {path | Readable path} :=
      ⟨fun text _ => render_parse text, fun _ hpath => parse_render hpath⟩
    exact hinverse.bijOn (fun text _ => readable_parse text) (fun _ _ => Set.mem_univ _)
  · rw [← h]
    exact readable_parse path.render

/-- Points at the ends of a text stand beside empty names. -/
example : parse ".a." = .segments ["", "a", ""] := rfl

end PluginKit.Path
