import PluginKit.Catalog
import PluginKit.Proofs.Data.Table
import PluginKit.Proofs.Host.Requirement

/-!
# Catalogs after registrations

What a catalog says about a code depends on the last message that was registered for it, or on the
catalog at the start if there was none.  The catalog of a host is the built-in one after the
messages of the settings have been registered:

    (c.registerAll registrations).messages.find? code =
      (valuesAt code registrations).getLast?.or (c.messages.find? code)       (find?_registerAll)
    (Host.afterVersions s versions).catalog.messages.find? code =
      (s.messages.find? code).or (Catalog.builtin.messages.find? code)       (find?_afterVersions)
-/

namespace PluginKit.Catalog

open Entries

variable {c : Catalog} {registrations registrations' : List (UInt32 × String)}

/-! ## Registrations -/

theorem messages_registerAll (c : Catalog) (registrations : List (UInt32 × String)) :
    (c.registerAll registrations).messages = c.messages.insertAll registrations := by
  induction registrations generalizing c with
  | nil => rfl
  | cons entry rest ih => exact ih (c.register entry.1 entry.2)

theorem find?_registerAll (c : Catalog) (registrations : List (UInt32 × String)) (code : UInt32) :
    (c.registerAll registrations).messages.find? code =
      (valuesAt code registrations).getLast?.or (c.messages.find? code) := by
  rw [messages_registerAll, Table.find?_insertAll]

theorem contains_registerAll (c : Catalog) (registrations : List (UInt32 × String))
    (code : UInt32) :
    (c.registerAll registrations).contains code = true ↔
      code ∈ registrations.map Prod.fst ∨ c.contains code = true := by
  unfold contains
  rw [messages_registerAll, Table.contains_insertAll]

/-- The order of registrations for different codes does not matter. -/
theorem registerAll_congr (h : ∀ code, valuesAt code registrations = valuesAt code registrations')
    (c : Catalog) : c.registerAll registrations = c.registerAll registrations' := by
  have hmessages : (c.registerAll registrations).messages =
      (c.registerAll registrations').messages := by
    rw [messages_registerAll, messages_registerAll]
    exact Table.insertAll_congr h c.messages
  cases hc : c.registerAll registrations
  cases hc' : c.registerAll registrations'
  rw [hc, hc'] at hmessages
  cases hmessages
  rfl

/-! ## What a catalog tells -/

theorem message_eq (c : Catalog) (code : UInt32) :
    c.message code =
      (c.messages.find? code).getD ("unrecognized error, code " ++ toString code.toNat) :=
  rfl

theorem pairwise_toList (c : Catalog) : (c.toList.map Prod.fst).Pairwise (· < ·) :=
  List.pairwise_map.2 c.messages.increasing

theorem mem_keys_toList (c : Catalog) (code : UInt32) :
    code ∈ c.toList.map Prod.fst ↔ c.contains code = true :=
  Table.contains_iff.symm

/-- The entries are the codes with a message of their own, each with this message. -/
theorem mem_toList (c : Catalog) (code : UInt32) (message : String) :
    (code, message) ∈ c.toList ↔ c.contains code = true ∧ c.message code = message := by
  have hfind : (code, message) ∈ c.toList ↔ c.messages.find? code = some message :=
    Table.find?_eq_some_iff.symm
  rw [hfind, message_eq]
  unfold contains Table.contains
  cases c.messages.find? code <;> simp

/-! ## The catalog of a host -/

theorem find?_builtin (code : UInt32) :
    builtin.messages.find? code =
      if code = 0 then some "ajax failure"
      else if code = 1 then some "application error"
      else none := by
  show (if 0 = code then some "ajax failure" else if 1 = code then some "application error"
    else none) = _
  simp only [eq_comm]

theorem contains_builtin (code : UInt32) :
    builtin.contains code = true ↔ code = 0 ∨ code = 1 := by
  unfold contains Table.contains
  rw [find?_builtin]
  by_cases hzero : code = 0 <;> by_cases hone : code = 1 <;> simp [hzero, hone]

theorem message_builtin (code : UInt32) :
    builtin.message code =
      if code = 0 then "ajax failure"
      else if code = 1 then "application error"
      else "unrecognized error, code " ++ toString code.toNat := by
  rw [message_eq, find?_builtin]
  by_cases hzero : code = 0
  · rw [if_pos hzero, if_pos hzero]
    rfl
  · rw [if_neg hzero, if_neg hzero]
    by_cases hone : code = 1
    · rw [if_pos hone, if_pos hone]
      rfl
    · rw [if_neg hone, if_neg hone]
      rfl

/-- Setting the version of a host leaves its catalog as it is. -/
theorem catalog_afterVersions (s : Settings) (versions : List String) :
    (Host.afterVersions s versions).catalog = builtin.registerAll s.messages.entries := by
  have hfold : ∀ h : Host, (versions.foldl Host.withVersion h).catalog = h.catalog := by
    induction versions with
    | nil => exact fun _ => rfl
    | cons version rest ih => exact fun h => ih (h.withVersion version)
  exact hfold (.ofSettings s)

theorem find?_afterVersions (s : Settings) (versions : List String) (code : UInt32) :
    (Host.afterVersions s versions).catalog.messages.find? code =
      (s.messages.find? code).or (builtin.messages.find? code) := by
  rw [catalog_afterVersions, find?_registerAll, Table.getLast?_valuesAt_entries]

/-- **The last message counts.**  A host has the messages of its settings, and otherwise the two
built-in ones; every other code has the general message.  Whatever the catalog at the start,
registrations put the last message of each code in the place of an older one, so that their order
counts for the same code only, and the codes stay listed once each and increase. -/
theorem last_registration_counts :
    (∀ (s : Settings) (versions : List String) (code : UInt32),
      let h := Host.afterVersions s versions
      h.incident code =
        { code
          message := (s.messages.find? code).getD
            (if code = 0 then "ajax failure"
            else if code = 1 then "application error"
            else "unrecognized error, code " ++ toString code.toNat)
          context := none } ∧
      (h.catalog.contains code = true ↔ s.messages.contains code = true ∨ code = 0 ∨ code = 1) ∧
      (code ∈ h.catalog.toList.map Prod.fst ↔ h.catalog.contains code = true) ∧
      (h.catalog.toList.map Prod.fst).Pairwise (· < ·)) ∧
    ∀ (c : Catalog) (registrations : List (UInt32 × String)),
      let after := c.registerAll registrations
      (∀ code, after.message code =
        ((valuesAt code registrations).getLast?.or (c.messages.find? code)).getD
          ("unrecognized error, code " ++ toString code.toNat)) ∧
      (∀ code, after.contains code = true ↔
        code ∈ registrations.map Prod.fst ∨ c.contains code = true) ∧
      (∀ registrations',
        (∀ code, valuesAt code registrations' = valuesAt code registrations) →
          c.registerAll registrations' = after) ∧
      (after.toList.map Prod.fst).Pairwise (· < ·) ∧
      ∀ code message, (code, message) ∈ after.toList ↔
        after.contains code = true ∧ after.message code = message := by
  refine ⟨?_, ?_⟩
  · intro s versions code h
    have hfind : h.catalog.messages.find? code = (s.messages.find? code).or
        (builtin.messages.find? code) := find?_afterVersions s versions code
    refine ⟨?_, ?_, mem_keys_toList h.catalog code, pairwise_toList h.catalog⟩
    · have hmessage : h.catalog.message code = (s.messages.find? code).getD
          (builtin.message code) := by
        rw [message_eq, message_eq, hfind, Option.getD_or]
      show Incident.ofCatalog h.catalog code = _
      unfold Incident.ofCatalog
      rw [hmessage, message_builtin]
    · rw [← contains_builtin]
      unfold contains Table.contains
      rw [hfind, Option.isSome_or, Bool.or_eq_true]
  · intro c registrations after
    refine ⟨?_, contains_registerAll c registrations, ?_, pairwise_toList after,
      mem_toList after⟩
    · intro code
      rw [message_eq, find?_registerAll]
    · intro registrations' h
      exact registerAll_congr h c

/-- A catalog without the built-in codes, after the same registrations in two orders. -/
theorem registrations_in_other_order :
    let first := [(7, "quota"), (0, "offline"), (7, "quota exceeded")]
    let second := [(0, "offline"), (7, "quota"), (7, "quota exceeded")]
    (∀ code, valuesAt code second = valuesAt code first) ∧
      Catalog.registerAll ⟨∅⟩ second = Catalog.registerAll ⟨∅⟩ first := by
  intro first second
  have hvalues : ∀ code, valuesAt code second = valuesAt code first := by
    intro code
    simp only [first, second, valuesAt_cons]
    by_cases hseven : 7 = code
    · have hzero : ¬ 0 = code := by
        rw [← hseven]
        decide
      simp only [if_neg hzero]
    · simp only [if_neg hseven]
  exact ⟨hvalues, (last_registration_counts.2 ⟨∅⟩ first).2.2.1 second hvalues⟩

end PluginKit.Catalog
