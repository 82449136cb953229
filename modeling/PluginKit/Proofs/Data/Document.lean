import Mathlib.Data.List.Perm.Basic
import Mathlib.Data.Option.Basic
import PluginKit.Data.Document
import PluginKit.Proofs.Data.Table
import PluginKit.Proofs.Outcome
import PluginKit.Proofs.Text.Numeral

/-!
# What is read from tables

A field is read from the values that a table gives to its name, so that other entries and the order
of the entries have no influence on it.  Messages are read from all entries of a table, each under
the code that its key spells:

    fields? names (L.table (before ++ entry :: after)) = fields? names (L.table (before ++ after))
      if the entry is named otherwise                                          (fields?_of_not_mem)
    fields? names (L.table entries) = fields? names (L.list items)
      if the entries are named after the items, in any order         (fields?_of_perm, fields?_list)
    messages? (L.table entries) = some messages →
      messages has an entry for each key among the entries                     (holds_of_messages?)
-/

namespace PluginKit.Document

open Entries Outcome

/-! ## Languages of documents -/

/-- How tables and lists are written in a language. -/
structure Language (δ κ : Type) [Document δ] where
  /-- The table with these entries. -/
  table : List (κ × δ) → δ
  /-- The list of these items. -/
  list : List δ → δ
  /-- What a key stands for. -/
  key : κ → Key
  fieldList?_table : ∀ entries, fieldList? (table entries) = none
  entries?_table : ∀ entries,
    entries? (table entries) = some (entries.map fun entry => (key entry.1, entry.2))
  fieldList?_list : ∀ items, fieldList? (list items) = some items
  /-- A code is spelled in one way only. -/
  eq_of_code? : ∀ {k l code}, (key k).code? = some code → (key l).code? = some code → k = l

end PluginKit.Document

namespace PluginKit.Json

open Document

/-- A key spells a code exactly if it is the numeral of the code without superfluous zeros. -/
theorem code?_eq_some {key : List Char} {code : UInt32} :
    code? key = some code ↔ key = Numeral.write code.toNat := by
  unfold code?
  constructor
  · intro h
    split at h
    · next n hread =>
      split at h
      · next hn =>
        cases h
        rw [Nat.toUInt32_eq, UInt32.toNat_ofNat_of_lt' hn.2]
        exact hn.1.symm
      · cases h
    · cases h
  · rintro rfl
    rw [Numeral.read?_write]
    show (if _ then _ else _) = _
    rw [if_pos ⟨rfl, code.toNat_lt⟩]
    exact congrArg some UInt32.ofNat_toNat

theorem code?_write (code : UInt32) : code? (Numeral.write code.toNat) = some code :=
  code?_eq_some.2 rfl

/-- JSON values. -/
def language : Language Json String where
  table := .obj
  list := .arr
  key name := ⟨some name, code? name.toList⟩
  fieldList?_table _ := rfl
  entries?_table _ := rfl
  fieldList?_list _ := rfl
  eq_of_code? h h' := by
    rw [code?_eq_some] at h h'
    exact String.toList_inj.1 (h.trans h'.symm)

/-- JSON texts. -/
def Draft.language : Language Draft (List Char) where
  table := .obj
  list := .arr
  key raw := ⟨text? raw, code? raw⟩
  fieldList?_table _ := rfl
  entries?_table _ := rfl
  fieldList?_list _ := rfl
  eq_of_code? h h' := by
    rw [code?_eq_some] at h h'
    exact h.trans h'.symm

end PluginKit.Json

namespace PluginKit.Document

open Entries Outcome

/-! ## Fields -/

section Fields

variable {δ κ : Type} [Document δ] {L : Language δ κ} {key : κ} {value : δ} {name : String}
  {names : List String} {items : List δ} {entries before after : List (κ × δ)}

/-- The entries with their keys as texts. -/
def Language.named (L : Language δ κ) (entries : List (κ × δ)) : List (Option String × δ) :=
  entries.map fun entry => ((L.key entry.1).name?, entry.2)

theorem Language.named_cons (entry : κ × δ) (entries : List (κ × δ)) :
    L.named (entry :: entries) = ((L.key entry.1).name?, entry.2) :: L.named entries :=
  List.map_cons

theorem Language.named_append (before after : List (κ × δ)) :
    L.named (before ++ after) = L.named before ++ L.named after :=
  List.map_append

/-- The only item of a list, which may be missing. -/
def single? {α : Type} : List α → Option (Option α)
  | [] => some none
  | [only] => some (some only)
  | _ => none

theorem field?_eq (name : String) (entries : List (κ × δ)) :
    field? name (entries.map fun entry => (L.key entry.1, entry.2)) =
      single? (valuesAt (some name) (L.named entries)) := by
  have hvalues : valuesAt (some name) (L.named entries) =
      ((entries.map fun entry => (L.key entry.1, entry.2)).filter
        fun entry => entry.1.name? == some name).map Prod.snd := by
    unfold valuesAt Language.named
    rw [List.filter_map, List.filter_map, List.map_map, List.map_map]
    refine congrArg (List.map Prod.snd) (List.filter_congr fun entry _ => ?_)
    rw [Bool.eq_iff_iff]
    simp
  rw [hvalues]
  unfold field?
  generalize (entries.map fun entry => (L.key entry.1, entry.2)).filter
    (fun entry => entry.1.name? == some name) = found
  rcases found with _ | ⟨first, _ | ⟨second, rest⟩⟩ <;> rfl

/-- The fields of a structure are read from the values that a table gives to their names. -/
theorem fields?_table (names : List String) (entries : List (κ × δ)) :
    fields? names (L.table entries) =
      if (L.named entries).any fun entry => entry.1.isNone then none
      else names.mapM fun name => single? (valuesAt (some name) (L.named entries)) := by
  have hfields : (fun name => field? name (entries.map fun entry => (L.key entry.1, entry.2))) =
      fun name => single? (valuesAt (some name) (L.named entries)) :=
    funext fun name => field?_eq name entries
  unfold fields?
  rw [L.fieldList?_table, L.entries?_table]
  show (if (entries.map fun entry => (L.key entry.1, entry.2)).any
    (fun entry => entry.1.name?.isNone) then none else names.mapM _) = _
  rw [hfields, List.any_map, Language.named, List.any_map]
  rfl

theorem any_named (h : (L.key key).name?.isSome = true) :
    ((L.named (before ++ (key, value) :: after)).any fun entry => entry.1.isNone) =
      (L.named (before ++ after)).any fun entry => entry.1.isNone := by
  have hkey : (L.key key).name?.isNone = false := by
    rw [Option.isNone_eq_false_iff]
    exact h
  rw [L.named_append, L.named_append, L.named_cons, List.any_append, List.any_append, List.any_cons,
    hkey, Bool.false_or]

theorem valuesAt_named_of_ne (h : (L.key key).name? ≠ some name) :
    valuesAt (some name) (L.named (before ++ (key, value) :: after)) =
      valuesAt (some name) (L.named (before ++ after)) := by
  rw [L.named_append, L.named_append, L.named_cons, valuesAt_append, valuesAt_append,
    valuesAt_cons, if_neg h]

/-- A key that is no field is passed over. -/
theorem fields?_of_not_mem (hkey : (L.key key).name? = some name) (h : name ∉ names) :
    fields? names (L.table (before ++ (key, value) :: after)) =
      fields? names (L.table (before ++ after)) := by
  have hany : ((L.named (before ++ (key, value) :: after)).any fun entry => entry.1.isNone) =
      (L.named (before ++ after)).any fun entry => entry.1.isNone :=
    any_named (by rw [hkey]; rfl)
  have hvalues : ∀ other ∈ names,
      single? (valuesAt (some other) (L.named (before ++ (key, value) :: after))) =
        single? (valuesAt (some other) (L.named (before ++ after))) := by
    intro other hother
    rw [valuesAt_named_of_ne]
    intro hname
    rw [hkey] at hname
    exact h (Option.some.inj hname ▸ hother)
  rw [fields?_table, fields?_table, hany, mapM_congr hvalues]

/-! ### One field -/

/-- What is made of the value of a field, which may be missing. -/
def readField {α : Type} (name : String) (read : Option δ → Option α)
    (named : List (Option String × δ)) : Option α :=
  (single? (valuesAt (some name) named)).bind read

variable {α : Type} {read : Option δ → Option α}

omit [Document δ] in
/-- A field that is given is read from the value that is given to it. -/
theorem readField_of_mem {named : List (Option String × δ)} {result : α}
    (h : readField name read named = some result) (hmem : (some name, value) ∈ named) :
    read (some value) = some result := by
  have hvalue : value ∈ valuesAt (some name) named := mem_valuesAt.2 hmem
  unfold readField at h
  generalize valuesAt (some name) named = values at h hvalue
  rcases values with _ | ⟨first, _ | ⟨second, rest⟩⟩
  · cases hvalue
  · rw [List.mem_singleton] at hvalue
    rw [hvalue]
    exact h
  · cases h

/-- A field reads as before if a value is given to it that reads like the missing field. -/
theorem readField_of_missing (hkey : (L.key key).name? = some name)
    (h : ∀ entry ∈ before ++ after, (L.key entry.1).name? ≠ some name)
    (hread : read (some value) = read none) :
    readField name read (L.named (before ++ (key, value) :: after)) =
      readField name read (L.named (before ++ after)) := by
  have hnil : valuesAt (some name) (L.named (before ++ after)) = [] := by
    rw [valuesAt_eq_nil_iff, Language.named, List.map_map]
    intro hmem
    obtain ⟨entry, hentry, hname⟩ := List.mem_map.1 hmem
    exact h entry hentry hname
  have hnil' := hnil
  rw [L.named_append, valuesAt_append, List.append_eq_nil_iff] at hnil'
  have hone : valuesAt (some name) (L.named (before ++ (key, value) :: after)) = [value] := by
    rw [L.named_append, L.named_cons, valuesAt_append, valuesAt_cons, if_pos hkey, hnil'.1, hnil'.2,
      List.nil_append]
  unfold readField
  rw [hone, hnil]
  exact hread

theorem readField_of_ne (h : (L.key key).name? ≠ some name) :
    readField name read (L.named (before ++ (key, value) :: after)) =
      readField name read (L.named (before ++ after)) := by
  unfold readField
  rw [valuesAt_named_of_ne h]

/-! ### Tables and lists -/

theorem map_fst_zip_sublist {α β : Type} (xs : List α) (ys : List β) :
    ((xs.zip ys).map Prod.fst).Sublist xs := by
  induction xs generalizing ys with
  | nil => exact List.Sublist.refl _
  | cons x xs ih =>
    cases ys with
    | nil => exact List.nil_sublist _
    | cons y ys => exact (ih ys).cons_cons x

omit [Document δ] in
/-- Items that are named in turn are the first fields. -/
theorem mapM_single?_zip (hnames : names.Nodup) (hlength : items.length ≤ names.length) :
    names.mapM (fun name => single? (valuesAt (some name) ((names.map some).zip items))) =
      some (items.map some ++ List.replicate (names.length - items.length) none) := by
  induction names generalizing items with
  | nil =>
    rw [List.length_eq_zero_iff.1 (Nat.le_zero.1 hlength)]
    rfl
  | cons name rest ih =>
    obtain ⟨hnot, hrest⟩ := List.nodup_cons.1 hnames
    cases items with
    | nil =>
      have hnone := @ih [] hrest (Nat.zero_le _)
      rw [List.zip_nil_right] at hnone ⊢
      rw [List.mapM_cons, hnone]
      rfl
    | cons item items =>
      have hsame : ∀ other ∈ rest,
          single? (valuesAt (some other) (((name :: rest).map some).zip (item :: items))) =
            single? (valuesAt (some other) ((rest.map some).zip items)) := by
        intro other hother
        rw [List.map_cons, List.zip_cons_cons, valuesAt_cons, if_neg]
        intro hname
        exact hnot (Option.some.inj hname ▸ hother)
      have hfirst : valuesAt (some name) (((name :: rest).map some).zip (item :: items)) =
          [item] := by
        rw [List.map_cons, List.zip_cons_cons, valuesAt_cons, if_pos rfl, valuesAt_eq_nil_iff.2]
        intro hmem
        have hmem' := (map_fst_zip_sublist _ _).subset hmem
        rw [List.mem_map_of_injective (Option.some_injective _)] at hmem'
        exact hnot hmem'
      rw [List.mapM_cons, hfirst, mapM_congr hsame, ih hrest (Nat.le_of_succ_le_succ hlength),
        List.length_cons, List.length_cons, Nat.add_sub_add_right]
      rfl

/-- A table gives the fields that the names of its entries say, in whatever order they stand. -/
theorem fields?_of_perm (hnames : names.Nodup) (hlength : items.length ≤ names.length)
    (hperm : (L.named entries).Perm ((names.map some).zip items)) :
    fields? names (L.table entries) =
      some (items.map some ++ List.replicate (names.length - items.length) none) := by
  have hkeys : (((names.map some).zip items).map Prod.fst).Nodup :=
    (map_fst_zip_sublist _ _).nodup (hnames.map (Option.some_injective _))
  have hany : ((L.named entries).any fun entry => entry.1.isNone) = false := by
    rw [List.any_eq_false]
    intro entry hentry
    obtain ⟨name, -, hname⟩ := List.mem_map.1 (List.of_mem_zip (hperm.subset hentry)).1
    rw [← hname]
    exact Bool.false_ne_true
  have hvalues : ∀ name ∈ names, single? (valuesAt (some name) (L.named entries)) =
      single? (valuesAt (some name) ((names.map some).zip items)) := by
    intro name _
    rw [valuesAt_of_perm hkeys hperm.symm]
  rw [fields?_table, hany, mapM_congr hvalues, mapM_single?_zip hnames hlength]
  rfl

/-- A list gives its items in turn. -/
theorem fields?_list (h : items.length ≤ names.length) :
    fields? names (L.list items) =
      some (items.map some ++ List.replicate (names.length - items.length) none) := by
  unfold fields?
  rw [L.fieldList?_list]
  exact if_pos h

end Fields

/-! ## Messages -/

section Messages

variable {δ κ : Type} [Document δ] {L : Language δ κ} {entries : List (κ × δ)}
  {messages : Table UInt32 String}

/-- A table entry spells a code and its message. -/
def Language.Spells (L : Language δ κ) (entry : κ × δ) (message : UInt32 × String) : Prop :=
  (L.key entry.1).code? = some message.1 ∧ text? entry.2 = some message.2

/-- What is read from the entries of a table of messages. -/
theorem messages?_eq_some :
    messages? (L.table entries) = some messages ↔
      ∃ pairs, List.Forall₂ L.Spells entries pairs ∧ messages = Table.ofList pairs := by
  have hentry : ∀ (entry : κ × δ) (pair : UInt32 × String),
      (do return (← (L.key entry.1).code?, ← text? entry.2)) = some pair ↔
        L.Spells entry pair := by
    rintro entry ⟨code, message⟩
    unfold Language.Spells
    cases (L.key entry.1).code? <;> cases text? entry.2 <;> simp
  unfold messages?
  rw [L.entries?_table]
  show Option.bind (List.mapM (fun entry : Key × δ => do return (← entry.1.code?, ← text? entry.2))
    (entries.map fun entry : κ × δ => (L.key entry.1, entry.2)))
      (fun pairs => some (Table.ofList pairs)) = _ ↔ _
  rw [Option.bind_eq_some_iff]
  refine exists_congr fun pairs => ?_
  rw [mapM_eq_some, List.forall₂_map_left_iff, Option.some.injEq, eq_comm (a := messages)]
  refine and_congr_left fun _ => ?_
  constructor
  · exact fun h => h.imp fun entry pair => (hentry entry pair).1
  · exact fun h => h.imp fun entry pair => (hentry entry pair).2

/-- The order of the entries does not matter if they spell the entries of a table of messages. -/
theorem messages?_of_perm {others : List (κ × δ)} (hperm : entries.Perm others)
    (hspells : List.Forall₂ L.Spells others messages.entries) :
    messages? (L.table entries) = some messages := by
  obtain ⟨pairs, hpairs, hpairs'⟩ := List.perm_comp_forall₂ hperm hspells
  have hvalues : ∀ code, valuesAt code messages.entries = valuesAt code pairs :=
    valuesAt_of_perm messages.nodup_keys hpairs'.symm
  refine messages?_eq_some.2 ⟨pairs, hpairs, ?_⟩
  rw [← messages.ofList_entries]
  exact Table.insertAll_congr hvalues _

theorem biUnique_code? :
    Relator.BiUnique fun (key : κ) (code : UInt32) => (L.key key).code? = some code :=
  ⟨fun _ _ _ h h' => L.eq_of_code? h h', fun _ _ _ h h' => Option.some.inj (h.symm.trans h')⟩

variable [DecidableEq κ]

/-- The messages of a table have an entry for each of its keys, with the last text that is given to
the key. -/
structure Language.Holds (L : Language δ κ) (entries : List (κ × δ))
    (messages : Table UInt32 String) : Prop where
  length_eq : messages.entries.length = (entries.map Prod.fst).dedup.length
  find?_eq : ∀ key value, (valuesAt key entries).getLast? = some value →
    ∃ code text, (L.key key).code? = some code ∧ text? value = some text ∧
      messages.find? code = some text

theorem length_dedup_of_forall₂ {α β : Type} [DecidableEq α] [DecidableEq β] {r : α → β → Prop}
    (hr : Relator.BiUnique r) {xs : List α} {ys : List β} (h : List.Forall₂ r xs ys) :
    xs.dedup.length = ys.dedup.length := by
  induction h with
  | nil => rfl
  | @cons x y xs ys hxy hrest ih =>
    have hmem : x ∈ xs ↔ y ∈ ys := List.rel_mem hr hxy hrest
    by_cases hx : x ∈ xs
    · rw [List.dedup_cons_of_mem hx, List.dedup_cons_of_mem (hmem.1 hx), ih]
    · rw [List.dedup_cons_of_notMem hx, List.dedup_cons_of_notMem (mt hmem.2 hx),
        List.length_cons, List.length_cons, ih]

theorem exists_of_forall₂_of_mem {α β : Type} {r : α → β → Prop} {xs : List α} {ys : List β}
    (h : List.Forall₂ r xs ys) {x : α} (hx : x ∈ xs) : ∃ y, r x y := by
  induction h with
  | nil => cases hx
  | cons hxy _ ih =>
    rcases List.mem_cons.1 hx with rfl | hx
    · exact ⟨_, hxy⟩
    · exact ih hx

theorem exists_getLast?_of_forall₂ {α β : Type} {r : α → β → Prop} {xs : List α} {ys : List β}
    (h : List.Forall₂ r xs ys) {x : α} (hx : xs.getLast? = some x) :
    ∃ y, ys.getLast? = some y ∧ r x y := by
  rw [← List.forall₂_reverse_iff] at h
  rw [← List.head?_reverse] at hx ⊢
  generalize xs.reverse = before at h hx
  generalize ys.reverse = after at h
  cases h with
  | nil => cases hx
  | cons hxy _ =>
    cases hx
    exact ⟨_, rfl, hxy⟩

theorem forall₂_valuesAt {key : κ} {code : UInt32} {pairs : List (UInt32 × String)}
    (hkey : (L.key key).code? = some code) (h : List.Forall₂ L.Spells entries pairs) :
    List.Forall₂ (fun value text => text? value = some text) (valuesAt key entries)
      (valuesAt code pairs) := by
  have hfilter :
      List.Forall₂ L.Spells (entries.filter (·.1 = key)) (pairs.filter (·.1 = code)) := by
    refine List.rel_filter ?_ h
    rintro entry pair ⟨hcode, -⟩
    refine decide_eq_true_iff.trans (Iff.trans ?_ decide_eq_true_iff.symm)
    constructor
    · rintro rfl
      exact Option.some.inj (hcode.symm.trans hkey)
    · rintro rfl
      exact L.eq_of_code? hcode hkey
  unfold valuesAt
  rw [List.forall₂_map_left_iff, List.forall₂_map_right_iff]
  exact hfilter.imp fun _ _ hspells => hspells.2

/-- No message of a table is lost. -/
theorem holds_of_messages? (h : messages? (L.table entries) = some messages) :
    L.Holds entries messages := by
  obtain ⟨pairs, hpairs, rfl⟩ := messages?_eq_some.1 h
  have hkeys : List.Forall₂ (fun key code => (L.key key).code? = some code)
      (entries.map Prod.fst) (pairs.map Prod.fst) := by
    rw [List.forall₂_map_left_iff, List.forall₂_map_right_iff]
    exact hpairs.imp fun _ _ hspells => hspells.1
  refine ⟨?_, fun key value hlast => ?_⟩
  · rw [Table.length_entries_ofList, length_dedup_of_forall₂ biUnique_code? hkeys]
  · have hmem := mem_valuesAt.1 (List.mem_of_getLast? hlast)
    obtain ⟨⟨code, _⟩, hcode, -⟩ := exists_of_forall₂_of_mem hpairs hmem
    obtain ⟨text, htext, hvalue⟩ :=
      exists_getLast?_of_forall₂ (forall₂_valuesAt hcode hpairs) hlast
    refine ⟨code, text, hcode, hvalue, ?_⟩
    rw [Table.ofList, Table.find?_insertAll, htext]
    rfl

end Messages

end PluginKit.Document
