/-!
# Entries and tables

The entries of an object are a list of keys with their values.  Writing an entry puts it before the
first greater key, in the stead of an older entry for its key; it is then found under its key, and
every other key is as it was:

    find? l (insert k v t) = if k = l then some v else find? l t         (find?_insert)

In a table each key stands once and the keys increase, which writing an entry keeps
(pairwise_insert).
-/

namespace PluginKit

/-! ## Lists of entries -/

namespace Entries

variable {κ α : Type} [DecidableEq κ]

/-- The value of the first entry for a key. -/
def find? (key : κ) : List (κ × α) → Option α
  | [] => none
  | (k, v) :: rest => if k = key then some v else find? key rest

variable [LT κ] [DecidableLT κ]

/-- Writes an entry at its place, in the stead of an older entry for the key. -/
def insert (key : κ) (value : α) : List (κ × α) → List (κ × α)
  | [] => [(key, value)]
  | (k, v) :: rest =>
    if k = key then (key, value) :: rest
    else if key < k then (key, value) :: (k, v) :: rest
    else (k, v) :: insert key value rest

/-- The entries by increasing key; of two for one key the later stays. -/
def sort (entries : List (κ × α)) : List (κ × α) :=
  entries.foldl (fun done entry => insert entry.1 entry.2 done) []

/-! ### Lemmas -/

theorem find?_insert (key other : κ) (value : α) (entries : List (κ × α)) :
    find? other (insert key value entries) =
      if key = other then some value else find? other entries := by
  induction entries with
  | nil => simp [insert, find?]
  | cons entry rest ih =>
    obtain ⟨k, v⟩ := entry
    rw [insert]
    split
    · next h => subst h; by_cases ho : k = other <;> simp [find?, ho]
    · split
      · simp [find?]
      · next hk _ =>
        by_cases ho : k = other
        · subst ho; simp [find?, Ne.symm hk]
        · simp [find?, ho, ih]

theorem eq_or_mem_of_mem_insert {key : κ} {value : α} {entries : List (κ × α)} {entry : κ × α}
    (h : entry ∈ insert key value entries) : entry = (key, value) ∨ entry ∈ entries := by
  induction entries with
  | nil => exact .inl (List.mem_singleton.1 h)
  | cons first rest ih =>
    obtain ⟨k, v⟩ := first
    rw [insert] at h
    split at h
    · exact (List.mem_cons.1 h).imp_right (List.mem_cons_of_mem _)
    · split at h
      · exact List.mem_cons.1 h
      · rcases List.mem_cons.1 h with rfl | h
        · exact .inr List.mem_cons_self
        · exact (ih h).imp_right (List.mem_cons_of_mem _)

/-- Writing an entry keeps the keys increasing. -/
theorem pairwise_insert [LE κ] [Std.IsLinearOrder κ] [Std.LawfulOrderLT κ] (key : κ) (value : α)
    {entries : List (κ × α)} (h : entries.Pairwise fun a b => a.1 < b.1) :
    (insert key value entries).Pairwise fun a b => a.1 < b.1 := by
  induction entries with
  | nil => exact List.pairwise_singleton _ _
  | cons first rest ih =>
    obtain ⟨k, v⟩ := first
    obtain ⟨hfirst, hrest⟩ := List.pairwise_cons.1 h
    rw [insert]
    split
    · next heq => subst heq; exact List.pairwise_cons.2 ⟨hfirst, hrest⟩
    · split
      · next hlt =>
        refine List.pairwise_cons.2 ⟨fun entry hmem => ?_, h⟩
        rcases List.mem_cons.1 hmem with rfl | hmem
        · exact hlt
        · exact Std.lt_trans hlt (hfirst entry hmem)
      · next hne hnlt =>
        refine List.pairwise_cons.2 ⟨fun entry hmem => ?_, ih hrest⟩
        rcases eq_or_mem_of_mem_insert hmem with heq | hmem
        · subst heq; exact Std.lt_of_le_of_ne (Std.not_lt.1 hnlt) hne
        · exact hfirst entry hmem

/-- Each entry was among those that are written. -/
theorem mem_of_mem_sort {entries : List (κ × α)} {entry : κ × α} (h : entry ∈ sort entries) :
    entry ∈ entries := by
  have hfold : ∀ (rest done : List (κ × α)),
      entry ∈ rest.foldl (fun done entry => insert entry.1 entry.2 done) done →
        entry ∈ rest ∨ entry ∈ done := by
    intro rest
    induction rest with
    | nil => exact fun _ h => .inr h
    | cons first rest ih =>
      intro done h
      rcases ih _ h with h | h
      · exact .inl (List.mem_cons_of_mem _ h)
      · rcases eq_or_mem_of_mem_insert h with rfl | h
        · exact .inl List.mem_cons_self
        · exact .inr h
  rcases hfold entries [] h with h | h
  · exact h
  · cases h

theorem pairwise_sort [LE κ] [Std.IsLinearOrder κ] [Std.LawfulOrderLT κ] (entries : List (κ × α)) :
    (sort entries).Pairwise fun a b => a.1 < b.1 := by
  have hfold : ∀ (rest done : List (κ × α)), (done.Pairwise fun a b => a.1 < b.1) →
      (rest.foldl (fun done entry => insert entry.1 entry.2 done) done).Pairwise
        fun a b => a.1 < b.1 := by
    intro rest
    induction rest with
    | nil => exact fun _ h => h
    | cons first rest ih => exact fun _ h => ih _ (pairwise_insert _ _ h)
  exact hfold entries [] List.Pairwise.nil

omit [LT κ] [DecidableLT κ]

theorem mem_of_find?_eq_some {key : κ} {value : α} {entries : List (κ × α)}
    (h : find? key entries = some value) : (key, value) ∈ entries := by
  induction entries with
  | nil => cases h
  | cons entry rest ih =>
    obtain ⟨k, v⟩ := entry
    rw [find?] at h
    split at h
    · next hk =>
      cases h
      rw [hk]
      exact List.mem_cons_self
    · exact List.mem_cons_of_mem _ (ih h)

/-- Where each key stands once, an entry is found under its key. -/
theorem find?_eq_some_of_mem {key : κ} {value : α} {entries : List (κ × α)}
    (hkeys : (entries.map Prod.fst).Nodup) (h : (key, value) ∈ entries) :
    find? key entries = some value := by
  induction entries with
  | nil => cases h
  | cons entry rest ih =>
    obtain ⟨k, v⟩ := entry
    obtain ⟨hnot, hrest⟩ := List.nodup_cons.1 hkeys
    rw [find?]
    rcases List.mem_cons.1 h with h | h
    · cases h
      exact if_pos rfl
    · rw [if_neg, ih hrest h]
      rintro rfl
      exact hnot (List.mem_map.2 ⟨_, h, rfl⟩)

end Entries

/-! ## Tables -/

/-- Entries by increasing key, one for each key. -/
structure Table (κ α : Type) [LT κ] where
  entries : List (κ × α)
  /-- The keys increase. -/
  increasing : entries.Pairwise fun a b => a.1 < b.1
  deriving DecidableEq, Repr

namespace Table

variable {κ α : Type} [LT κ]

/-- The table without entries. -/
def empty : Table κ α where
  entries := []
  increasing := List.Pairwise.nil

instance : EmptyCollection (Table κ α) := ⟨empty⟩

instance : Inhabited (Table κ α) := ⟨empty⟩

variable [DecidableEq κ]

/-- The value at a key. -/
def find? (key : κ) (table : Table κ α) : Option α :=
  Entries.find? key table.entries

/-- Is there an entry for the key? -/
def contains (key : κ) (table : Table κ α) : Bool :=
  (find? key table).isSome

variable [DecidableLT κ] [LE κ] [Std.IsLinearOrder κ] [Std.LawfulOrderLT κ]

/-- Writes an entry, in the stead of an older entry for the key. -/
def insert (key : κ) (value : α) (table : Table κ α) : Table κ α where
  entries := Entries.insert key value table.entries
  increasing := Entries.pairwise_insert key value table.increasing

/-- Writes entries in turn, so that of two for one key the later stays. -/
def insertAll (table : Table κ α) (entries : List (κ × α)) : Table κ α :=
  entries.foldl (fun t entry => t.insert entry.1 entry.2) table

/-- The table of a list of entries; of two for one key the later stays. -/
def ofList (entries : List (κ × α)) : Table κ α :=
  empty.insertAll entries

end Table

end PluginKit
