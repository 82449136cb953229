import PluginKit.Json.Summary
import PluginKit.Proofs.Decimal.Character
import PluginKit.Proofs.Record.Context
import PluginKit.Proofs.Text.Split

/-!
# What a value in short shows

A container with more than three items or two entries is shown by its kind and size alone, wherever
it stands.  In a value without such containers each part is shown as it is on its own, and a value
without line feeds stays on one line:

    Unbroken v → '\n' ∉ v.summary                                        (feed_not_mem_summary)
    c.IsLarge → c'.extent? = c.extent? →
      (fill frames c').summary = (fill frames c).summary                        (summary_fill_large)
    (∀ position c, IsNode v position c → ¬ c.IsLarge) →
      IsNode v position part → part.summary <:+: v.summary                (infix_summary_of_isNode)
-/

namespace PluginKit

namespace Json

/-! ## Containers and what stands in them -/

theorem summaryItems_eq_map (items : List Json) : summaryItems items = items.map summary := by
  induction items with
  | nil => rfl
  | cons item rest ih => rw [summaryItems, ih, List.map_cons]

/-- An entry in short. -/
def entrySummary (entry : String × Json) : List Char :=
  entry.1.toList ++ ':' :: ' ' :: entry.2.summary

theorem summaryEntries_eq_map (entries : List (String × Json)) :
    summaryEntries entries = entries.map entrySummary := by
  induction entries with
  | nil => rfl
  | cons entry rest ih => rw [summaryEntries, ih, List.map_cons, entrySummary]

theorem summary_arr (items : List Json) :
    (Json.arr items).summary =
      if items.length ≤ maxItems then '[' :: [',', ' '].intercalate (items.map summary) ++ [']']
      else '[' :: Numeral.write items.length ++ " items]".toList := by
  rw [summary, summaryItems_eq_map]

theorem summary_obj (entries : List (String × Json)) :
    (Json.obj entries).summary =
      if entries.length ≤ maxEntries then
        '{' :: [',', ' '].intercalate (entries.map entrySummary) ++ ['}']
      else '{' :: Numeral.write entries.length ++ " fields".toList ++ ['}'] := by
  rw [summary, summaryEntries_eq_map]

/-! ## Line feeds -/

/-- No string in the value and no key has a line feed. -/
inductive Unbroken : Json → Prop
  | null : Unbroken .null
  | bool (value : Bool) : Unbroken (.bool value)
  | num (value : Number) : Unbroken (.num value)
  | str {value : String} (h : '\n' ∉ value.toList) : Unbroken (.str value)
  | arr {items : List Json} (hitems : ∀ item ∈ items, Unbroken item) : Unbroken (.arr items)
  | obj {entries : List (String × Json)} (hkeys : ∀ entry ∈ entries, '\n' ∉ entry.1.toList)
      (hvalues : ∀ entry ∈ entries, Unbroken entry.2) : Unbroken (.obj entries)

theorem feed_not_mem_listing {parts : List (List Char)} (h : ∀ part ∈ parts, '\n' ∉ part) :
    '\n' ∉ [',', ' '].intercalate parts := by
  intro hmem
  rcases Split.mem_intercalate hmem with hseparator | ⟨part, hpart, hmem⟩
  · exact absurd hseparator (by decide)
  · exact h part hpart hmem

/-- The short form of a value without line feeds has none. -/
theorem feed_not_mem_summary {v : Json} (h : Unbroken v) : '\n' ∉ v.summary := by
  induction h with
  | null => decide
  | bool value => cases value <;> decide
  | num value => exact value.marked_write.feed_not_mem
  | str h => simpa [summary] using h
  | @arr items hitems ih =>
    have hlisting : '\n' ∉ [',', ' '].intercalate (items.map summary) :=
      feed_not_mem_listing (List.forall_mem_map.2 ih)
    rw [summary_arr]
    split
    · simpa using hlisting
    · simpa using (Decimal.marked_numeral items.length).feed_not_mem
  | @obj entries hkeys hvalues ih =>
    have hlisting : '\n' ∉ [',', ' '].intercalate (entries.map entrySummary) := by
      refine feed_not_mem_listing (List.forall_mem_map.2 fun entry hmem => ?_)
      simpa [entrySummary] using ⟨hkeys entry hmem, ih entry hmem⟩
    rw [summary_obj]
    split
    · simpa using hlisting
    · simpa using (Decimal.marked_numeral entries.length).feed_not_mem

/-! ## Large containers -/

/-- The size of a container, with its kind. -/
inductive Extent
  | items (n : Nat)
  | entries (n : Nat)
  deriving DecidableEq

namespace Extent

/-- More than three items, or more than two entries. -/
def IsLarge : Extent → Prop
  | .items n => 3 < n
  | .entries n => 2 < n

instance : DecidablePred IsLarge
  | .items n => inferInstanceAs (Decidable (3 < n))
  | .entries n => inferInstanceAs (Decidable (2 < n))

/-- What is shown of a large container. -/
def summary : Extent → List Char
  | .items n => '[' :: Numeral.write n ++ " items]".toList
  | .entries n => '{' :: Numeral.write n ++ " fields".toList ++ ['}']

end Extent

/-- The size of a value that is a container. -/
def extent? : Json → Option Extent
  | .arr items => some (.items items.length)
  | .obj entries => some (.entries entries.length)
  | _ => none

/-- The value is an array with more than three items or an object with more than two entries. -/
def IsLarge (v : Json) : Prop :=
  ∃ extent ∈ v.extent?, extent.IsLarge

instance (v : Json) : Decidable v.IsLarge :=
  inferInstanceAs (Decidable (∃ extent ∈ v.extent?, extent.IsLarge))

variable {v w c c' : Json} {frame : Frame}

/-- Of a large container its size is shown and nothing else. -/
theorem summary_of_large {extent : Extent} (h : v.extent? = some extent)
    (hlarge : extent.IsLarge) : v.summary = extent.summary := by
  cases v with
  | arr items =>
    cases h
    have hlength : ¬ items.length ≤ maxItems := Nat.not_le_of_lt hlarge
    rw [summary_arr, if_neg hlength, Extent.summary]
  | obj entries =>
    cases h
    have hlength : ¬ entries.length ≤ maxEntries := Nat.not_le_of_lt hlarge
    rw [summary_obj, if_neg hlength, Extent.summary]
  | _ => cases h

theorem summary_eq_of_extent? (hlarge : c.IsLarge) (hsame : c'.extent? = c.extent?) :
    c'.summary = c.summary := by
  obtain ⟨extent, hextent, hlarge⟩ := hlarge
  rw [summary_of_large hextent hlarge, summary_of_large (hsame.trans hextent) hlarge]

/-! ## Surroundings -/

theorem summary_plug_congr (frame : Frame) (h : v.summary = w.summary) :
    (frame.plug v).summary = (frame.plug w).summary := by
  cases frame with
  | item before after =>
    simp only [Frame.plug, summary_arr, List.map_append, List.map_cons, List.length_append,
      List.length_cons, h]
  | entry before key after =>
    simp only [Frame.plug, summary_obj, List.map_append, List.map_cons, List.length_append,
      List.length_cons, entrySummary, h]

theorem summary_fill_congr (frames : List Frame) (h : v.summary = w.summary) :
    (fill frames v).summary = (fill frames w).summary := by
  induction frames with
  | nil => exact h
  | cons frame frames ih => exact summary_plug_congr frame ih

theorem summary_fill_large (frames : List Frame) (hlarge : c.IsLarge)
    (hsame : c'.extent? = c.extent?) : (fill frames c').summary = (fill frames c).summary :=
  summary_fill_congr frames (summary_eq_of_extent? hlarge hsame)

theorem infix_entrySummary (key : String) (v : Json) : v.summary <:+: entrySummary (key, v) :=
  List.infix_append_of_infix_right (List.suffix_append [':', ' '] v.summary).isInfix

/-- A container that is not large shows what stands in it. -/
theorem infix_summary_plug (hsmall : ¬ (frame.plug v).IsLarge) :
    v.summary <:+: (frame.plug v).summary := by
  cases frame with
  | item before after =>
    have hlength : (before ++ v :: after).length ≤ maxItems :=
      Nat.le_of_not_lt fun h => hsmall ⟨_, rfl, h⟩
    have hmem : v.summary ∈ (before ++ v :: after).map summary :=
      List.mem_map_of_mem List.mem_append_cons_self
    rw [Frame.plug, summary_arr, if_pos hlength]
    exact (Split.infix_intercalate_of_mem _ hmem).trans (List.infix_append' ['['] _ [']'])
  | entry before key after =>
    have hlength : (before ++ (key, v) :: after).length ≤ maxEntries :=
      Nat.le_of_not_lt fun h => hsmall ⟨_, rfl, h⟩
    have hmem : entrySummary (key, v) ∈ (before ++ (key, v) :: after).map entrySummary :=
      List.mem_map_of_mem List.mem_append_cons_self
    rw [Frame.plug, summary_obj, if_pos hlength]
    exact (infix_entrySummary key v).trans
      ((Split.infix_intercalate_of_mem _ hmem).trans (List.infix_append' ['{'] _ ['}']))

theorem infix_summary_fill {frames : List Frame}
    (hsmall : ∀ position c, IsNode (fill frames v) position c → ¬ c.IsLarge) :
    v.summary <:+: (fill frames v).summary := by
  induction frames with
  | nil => exact List.infix_rfl
  | cons frame frames ih =>
    have hinner : ∀ position c, IsNode (fill frames v) position c → ¬ c.IsLarge :=
      fun position c hnode => hsmall _ c ((isNode_plug frame _).cons hnode)
    exact (ih hinner).trans (infix_summary_plug (hsmall [] _ (.root _)))

/-- In a value without large containers each part is shown as it is on its own. -/
theorem infix_summary_of_isNode {position : List Place}
    (hsmall : ∀ position c, IsNode v position c → ¬ c.IsLarge) (h : IsNode v position c) :
    c.summary <:+: v.summary := by
  obtain ⟨frames, -, rfl⟩ := isNode_iff_exists_fill.1 h
  exact infix_summary_fill hsmall

/-- The value is no container, and this is its text. -/
inductive LeafText : Json → List Char → Prop
  | null : LeafText .null "null".toList
  | false : LeafText (.bool false) "false".toList
  | true : LeafText (.bool true) "true".toList
  | num (value : Number) : LeafText (.num value) value.write
  | str (value : String) : LeafText (.str value) ('"' :: value.toList ++ ['"'])

theorem summary_of_leafText {text : List Char} (h : LeafText v text) : v.summary = text := by
  cases h <;> rfl

end Json

end PluginKit
