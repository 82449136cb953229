import Mathlib.Data.List.Dedup
import PluginKit.Data.Table

/-!
# Tables and what is found in them

A table is what is found in it.  After entries have been written in turn, the last one for a key is
found under that key, so that only the order of the entries for one key matters:

    (∀ key, t.find? key = u.find? key) → t = u                                       (ext_find?)
    (t.insertAll entries).find? key =
      (valuesAt key entries).getLast?.or (t.find? key)                         (find?_insertAll)
    (∀ key, valuesAt key entries = valuesAt key entries') →
      t.insertAll entries = t.insertAll entries'                              (insertAll_congr)
-/

namespace PluginKit

/-! ## Lists of entries -/

namespace Entries

variable {κ α : Type} [DecidableEq κ]

/-- The values that entries give to a key, in their order. -/
def valuesAt (key : κ) (entries : List (κ × α)) : List α :=
  (entries.filter (·.1 = key)).map Prod.snd

theorem valuesAt_cons (key k : κ) (v : α) (entries : List (κ × α)) :
    valuesAt key ((k, v) :: entries) =
      if k = key then v :: valuesAt key entries else valuesAt key entries := by
  unfold valuesAt
  by_cases h : k = key <;> simp [h]

theorem valuesAt_append (key : κ) (before after : List (κ × α)) :
    valuesAt key (before ++ after) = valuesAt key before ++ valuesAt key after := by
  unfold valuesAt
  rw [List.filter_append, List.map_append]

theorem mem_valuesAt {key : κ} {value : α} {entries : List (κ × α)} :
    value ∈ valuesAt key entries ↔ (key, value) ∈ entries := by
  unfold valuesAt
  simp

theorem valuesAt_eq_nil_iff {key : κ} {entries : List (κ × α)} :
    valuesAt key entries = [] ↔ key ∉ entries.map Prod.fst := by
  rw [List.eq_nil_iff_forall_not_mem]
  constructor
  · intro h hmem
    obtain ⟨⟨k, v⟩, hentry, rfl⟩ := List.mem_map.1 hmem
    exact h v (mem_valuesAt.2 hentry)
  · intro h v hv
    exact h (List.mem_map.2 ⟨_, mem_valuesAt.1 hv, rfl⟩)

/-- Where each key stands once, an entry is the only one for its key. -/
theorem valuesAt_of_mem {key : κ} {value : α} {entries : List (κ × α)}
    (hkeys : (entries.map Prod.fst).Nodup) (h : (key, value) ∈ entries) :
    valuesAt key entries = [value] := by
  induction entries with
  | nil => cases h
  | cons entry rest ih =>
    obtain ⟨k, v⟩ := entry
    obtain ⟨hnot, hrest⟩ := List.nodup_cons.1 hkeys
    rw [valuesAt_cons]
    rcases List.mem_cons.1 h with h | h
    · cases h
      rw [if_pos rfl, valuesAt_eq_nil_iff.2 hnot]
    · rw [if_neg, ih hrest h]
      rintro rfl
      exact hnot (List.mem_map.2 ⟨_, h, rfl⟩)

/-- Where each key stands once, the order of the entries does not matter for any of them. -/
theorem valuesAt_of_perm {entries entries' : List (κ × α)} (hkeys : (entries.map Prod.fst).Nodup)
    (hperm : entries.Perm entries') (key : κ) : valuesAt key entries = valuesAt key entries' := by
  have hkeys' : (entries'.map Prod.fst).Nodup := (hperm.map Prod.fst).nodup hkeys
  by_cases hmem : key ∈ entries.map Prod.fst
  · obtain ⟨⟨k, v⟩, hentry, rfl⟩ := List.mem_map.1 hmem
    rw [valuesAt_of_mem hkeys hentry, valuesAt_of_mem hkeys' (hperm.mem_iff.1 hentry)]
  · have hmem' : key ∉ entries'.map Prod.fst := fun h => hmem ((hperm.map Prod.fst).mem_iff.2 h)
    rw [valuesAt_eq_nil_iff.2 hmem, valuesAt_eq_nil_iff.2 hmem']

variable [LT κ] [DecidableLT κ]

theorem insert_perm {key : κ} {entries : List (κ × α)} (h : key ∉ entries.map Prod.fst)
    (value : α) : (insert key value entries).Perm ((key, value) :: entries) := by
  induction entries with
  | nil => exact List.Perm.refl _
  | cons entry rest ih =>
    obtain ⟨k, v⟩ := entry
    rw [List.map_cons, List.mem_cons, not_or] at h
    rw [insert, if_neg (Ne.symm h.1)]
    split
    · exact List.Perm.refl _
    · exact ((ih h.2).cons _).trans (List.Perm.swap _ _ _)

/-- Where each key stands once, sorting loses no entry. -/
theorem sort_perm {entries : List (κ × α)} (hkeys : (entries.map Prod.fst).Nodup) :
    (sort entries).Perm entries := by
  have hfold : ∀ rest done : List (κ × α), ((rest ++ done).map Prod.fst).Nodup →
      (rest.foldl (fun done entry => insert entry.1 entry.2 done) done).Perm (rest ++ done) := by
    intro rest
    induction rest with
    | nil => exact fun _ _ => List.Perm.refl _
    | cons entry rest ih =>
      obtain ⟨k, v⟩ := entry
      intro done hkeys
      have hnot : k ∉ done.map Prod.fst := by
        have hk : k ∉ (rest ++ done).map Prod.fst := (List.nodup_cons.1 hkeys).1
        rw [List.map_append, List.mem_append, not_or] at hk
        exact hk.2
      have hstep : (rest ++ insert k v done).Perm ((k, v) :: (rest ++ done)) :=
        ((insert_perm hnot v).append_left rest).trans List.perm_middle
      exact (ih _ ((hstep.map Prod.fst).nodup_iff.2 hkeys)).trans hstep
  have hsort := hfold entries [] (by rwa [List.append_nil])
  rwa [List.append_nil] at hsort

end Entries

/-! ## Tables -/

namespace Table

open Entries

variable {κ α : Type} [LT κ] [LE κ] [Std.LawfulOrderLT κ] {t u : Table κ α} {key : κ} {value : α}

theorem nodup_keys (t : Table κ α) : (t.entries.map Prod.fst).Nodup := by
  refine List.pairwise_map.2 (t.increasing.imp ?_)
  intro a b hlt
  exact Std.ne_of_lt hlt

variable [DecidableEq κ]

theorem find?_eq_some_iff : t.find? key = some value ↔ (key, value) ∈ t.entries :=
  ⟨mem_of_find?_eq_some, find?_eq_some_of_mem t.nodup_keys⟩

theorem contains_iff : t.contains key = true ↔ key ∈ t.entries.map Prod.fst := by
  unfold contains
  rw [Option.isSome_iff_exists, List.mem_map]
  constructor
  · rintro ⟨v, hv⟩
    exact ⟨(key, v), find?_eq_some_iff.1 hv, rfl⟩
  · rintro ⟨⟨k, v⟩, hmem, rfl⟩
    exact ⟨v, find?_eq_some_iff.2 hmem⟩

/-- Among the entries of a table the last one for a key is the one that is found. -/
theorem getLast?_valuesAt_entries (t : Table κ α) (key : κ) :
    (valuesAt key t.entries).getLast? = t.find? key := by
  cases hfind : t.find? key with
  | none =>
    have hmem : key ∉ t.entries.map Prod.fst := by
      rw [← contains_iff, contains, hfind]
      exact Bool.false_ne_true
    rw [valuesAt_eq_nil_iff.2 hmem]
    rfl
  | some value =>
    rw [valuesAt_of_mem t.nodup_keys (find?_eq_some_iff.1 hfind)]
    rfl

variable [Std.IsLinearOrder κ]

/-- A table is what is found in it. -/
theorem ext_find? (h : ∀ key, t.find? key = u.find? key) : t = u := by
  have hmem : ∀ entry, entry ∈ t.entries ↔ entry ∈ u.entries := by
    rintro ⟨k, v⟩
    rw [← find?_eq_some_iff, ← find?_eq_some_iff, h]
  have hperm : t.entries.Perm u.entries :=
    (List.perm_ext_iff_of_nodup (List.Nodup.of_map _ t.nodup_keys)
      (List.Nodup.of_map _ u.nodup_keys)).2 hmem
  have hentries : t.entries = u.entries := by
    refine hperm.eq_of_pairwise ?_ t.increasing u.increasing
    intro a b _ _ hab hba
    exact absurd (Std.lt_trans hab hba) Std.lt_irrefl
  cases t
  cases u
  cases hentries
  rfl

variable [DecidableLT κ]

theorem find?_insertAll (t : Table κ α) (entries : List (κ × α)) (key : κ) :
    (t.insertAll entries).find? key = (valuesAt key entries).getLast?.or (t.find? key) := by
  induction entries generalizing t with
  | nil => rfl
  | cons entry rest ih =>
    obtain ⟨k, v⟩ := entry
    have hinsert : (t.insert k v).find? key = if k = key then some v else t.find? key :=
      find?_insert k key v t.entries
    show ((t.insert k v).insertAll rest).find? key = _
    rw [ih, hinsert, valuesAt_cons]
    by_cases hk : k = key
    · rw [if_pos hk, if_pos hk, List.getLast?_cons]
      cases (valuesAt key rest).getLast? <;> rfl
    · rw [if_neg hk, if_neg hk]

theorem contains_insertAll (t : Table κ α) (entries : List (κ × α)) (key : κ) :
    (t.insertAll entries).contains key = true ↔
      key ∈ entries.map Prod.fst ∨ t.contains key = true := by
  have hlast : (valuesAt key entries).getLast?.isSome = true ↔ key ∈ entries.map Prod.fst := by
    rw [Option.isSome_iff_ne_none, Ne, List.getLast?_eq_none_iff, valuesAt_eq_nil_iff, not_not]
  unfold contains
  rw [find?_insertAll, Option.isSome_or, Bool.or_eq_true, hlast]

/-- Only the order of the entries for one key matters. -/
theorem insertAll_congr {entries entries' : List (κ × α)}
    (h : ∀ key, valuesAt key entries = valuesAt key entries') (t : Table κ α) :
    t.insertAll entries = t.insertAll entries' := by
  refine ext_find? fun key => ?_
  rw [find?_insertAll, find?_insertAll, h]

/-- The entries of a table, written one after the other, give the table again. -/
theorem ofList_entries (t : Table κ α) : ofList t.entries = t := by
  refine ext_find? fun key => ?_
  unfold ofList
  rw [find?_insertAll, getLast?_valuesAt_entries]
  exact Option.or_none

/-- A table has an entry for each key that is written. -/
theorem length_entries_ofList (entries : List (κ × α)) :
    (ofList entries).entries.length = (entries.map Prod.fst).dedup.length := by
  have hmem : ∀ key, key ∈ (ofList entries).entries.map Prod.fst ↔
      key ∈ (entries.map Prod.fst).dedup := by
    intro key
    rw [← contains_iff, ofList, contains_insertAll, List.mem_dedup]
    exact or_iff_left Bool.false_ne_true
  have hperm : ((ofList entries).entries.map Prod.fst).Perm (entries.map Prod.fst).dedup :=
    (List.perm_ext_iff_of_nodup (nodup_keys _) (List.nodup_dedup _)).2 hmem
  rw [← hperm.length_eq, List.length_map]

end Table

end PluginKit
