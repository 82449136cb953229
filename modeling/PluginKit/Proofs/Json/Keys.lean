import PluginKit.Json.Draft

/-!
# Keys of records

In a record each object has each of its keys once, however often the text has it:

    parse? text = some v → KeysOnce v                                    (keysOnce_of_parse?)
-/

namespace PluginKit.Json

/-- Each object in the value has each of its keys once. -/
inductive KeysOnce : Json → Prop
  | null : KeysOnce .null
  | bool (value : Bool) : KeysOnce (.bool value)
  | num (value : Number) : KeysOnce (.num value)
  | str (value : String) : KeysOnce (.str value)
  | arr {items : List Json} (hitems : ∀ item ∈ items, KeysOnce item) : KeysOnce (.arr items)
  | obj {entries : List (String × Json)} (hkeys : (entries.map Prod.fst).Nodup)
      (hvalues : ∀ entry ∈ entries, KeysOnce entry.2) : KeysOnce (.obj entries)

theorem KeysOnce.of_mem_items {items : List Json} (h : KeysOnce (.arr items)) {item : Json}
    (hmem : item ∈ items) : KeysOnce item := by
  cases h with
  | arr hitems => exact hitems item hmem

theorem KeysOnce.of_mem_entries {entries : List (String × Json)} (h : KeysOnce (.obj entries))
    {key : String} {value : Json} (hmem : (key, value) ∈ entries) : KeysOnce value := by
  cases h with
  | obj _ hvalues => exact hvalues (key, value) hmem

theorem KeysOnce.nodup {entries : List (String × Json)} (h : KeysOnce (.obj entries)) :
    (entries.map Prod.fst).Nodup := by
  cases h with
  | obj hkeys _ => exact hkeys

/-- Sorting leaves one entry for each key. -/
theorem keysOnce_record {entries : List (String × Json)}
    (h : ∀ entry ∈ entries, KeysOnce entry.2) : KeysOnce (record entries) := by
  refine .obj ?_ fun entry hmem => h entry (Entries.mem_of_mem_sort hmem)
  rw [List.Nodup, List.pairwise_map]
  exact (Entries.pairwise_sort entries).imp fun hlt => Std.ne_of_lt hlt

namespace Draft

mutual

theorem keysOnce_of_valueWithin? {depth : Nat} {draft : Draft} {v : Json}
    (h : valueWithin? depth draft = some v) : KeysOnce v := by
  cases draft with
  | null => cases h; exact .null
  | bool value => cases h; exact .bool value
  | num literal =>
    obtain ⟨number, -, rfl⟩ := Option.map_eq_some_iff.1 h
    exact .num number
  | str raw =>
    obtain ⟨text, -, rfl⟩ := Option.map_eq_some_iff.1 h
    exact .str text
  | arr items =>
    rw [valueWithin?] at h
    split at h
    · cases h
    · obtain ⟨values, hvalues, rfl⟩ := Option.map_eq_some_iff.1 h
      exact .arr (keysOnce_of_itemsWithin? hvalues)
  | obj entries =>
    rw [valueWithin?] at h
    split at h
    · cases h
    · obtain ⟨values, hvalues, rfl⟩ := Option.map_eq_some_iff.1 h
      exact keysOnce_record (keysOnce_of_entriesWithin? hvalues)

theorem keysOnce_of_itemsWithin? {depth : Nat} {items : List Draft} {values : List Json}
    (h : itemsWithin? depth items = some values) : ∀ value ∈ values, KeysOnce value := by
  cases items with
  | nil => cases h; exact fun _ hmem => absurd hmem List.not_mem_nil
  | cons item rest =>
    rw [itemsWithin?] at h
    obtain ⟨first, hfirst, h⟩ := Option.bind_eq_some_iff.1 h
    obtain ⟨others, hothers, h⟩ := Option.bind_eq_some_iff.1 h
    cases h
    intro value hmem
    rcases List.mem_cons.1 hmem with rfl | hmem
    · exact keysOnce_of_valueWithin? hfirst
    · exact keysOnce_of_itemsWithin? hothers value hmem

theorem keysOnce_of_entriesWithin? {depth : Nat} {entries : List (List Char × Draft)}
    {values : List (String × Json)} (h : entriesWithin? depth entries = some values) :
    ∀ entry ∈ values, KeysOnce entry.2 := by
  cases entries with
  | nil => cases h; exact fun _ hmem => absurd hmem List.not_mem_nil
  | cons entry rest =>
    obtain ⟨raw, item⟩ := entry
    rw [entriesWithin?] at h
    obtain ⟨key, -, h⟩ := Option.bind_eq_some_iff.1 h
    obtain ⟨first, hfirst, h⟩ := Option.bind_eq_some_iff.1 h
    obtain ⟨others, hothers, h⟩ := Option.bind_eq_some_iff.1 h
    cases h
    intro entry hmem
    rcases List.mem_cons.1 hmem with rfl | hmem
    · exact keysOnce_of_valueWithin? hfirst
    · exact keysOnce_of_entriesWithin? hothers entry hmem

end

end Draft

/-- A value that is read from a text has each key once in each object. -/
theorem keysOnce_of_parse? {text : String} {v : Json} (h : parse? text = some v) : KeysOnce v := by
  obtain ⟨draft, -, hvalue⟩ := Option.bind_eq_some_iff.1 h
  exact Draft.keysOnce_of_valueWithin? hvalue

end PluginKit.Json
