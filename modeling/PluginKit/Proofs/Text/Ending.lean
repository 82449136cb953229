import Mathlib.Data.List.DropRight
import PluginKit.Text.Blank

/-!
# The ends of texts

A text is firm if its last character is not blank, and trimming removes nothing from it.  How a text
ends depends on its last part only:

    text ≠ [] → (Firm (before ++ text) ↔ Firm text)                            (firm_append_iff)
    trimEnd text = dropFeed text ↔ dropFeed text = [] ∨ Firm (dropFeed text)
                                                                       (trimEnd_eq_dropFeed_iff)

Here `dropFeed` removes one line feed at the most.
-/

namespace PluginKit.Blank

/-- The text has a last character, which is not blank. -/
def Firm (text : List Char) : Prop :=
  ∃ c, text.getLast? = some c ∧ isBlank c = false

/-- The text without the line feed at its end, if it has one there. -/
def dropFeed (text : List Char) : List Char :=
  if text.getLast? = some '\n' then text.dropLast else text

variable {before text : List Char} {c : Char}

/-! ## Firm texts -/

theorem firm_append_iff (h : text ≠ []) : Firm (before ++ text) ↔ Firm text := by
  have hlast : (before ++ text).getLast? = text.getLast? := by
    rw [List.getLast?_append, List.getLast?_eq_some_getLast h]
    rfl
  unfold Firm
  rw [hlast]

theorem Firm.ne_nil (h : Firm text) : text ≠ [] := by
  rintro rfl
  obtain ⟨c, hc, -⟩ := h
  cases hc

theorem Firm.append (h : Firm text) (before : List Char) : Firm (before ++ text) :=
  (firm_append_iff h.ne_nil).2 h

theorem Firm.cons (h : Firm text) (c : Char) : Firm (c :: text) :=
  h.append [c]

theorem firm_concat (hc : isBlank c = false) (before : List Char) : Firm (before ++ [c]) :=
  ⟨c, List.getLast?_concat, hc⟩

theorem firm_of_forall (hne : text ≠ []) (h : ∀ c ∈ text, isBlank c = false) : Firm text :=
  ⟨text.getLast hne, List.getLast?_eq_some_getLast hne, h _ (List.getLast_mem hne)⟩

/-- Trimming removes nothing exactly from a firm text and from the empty one. -/
theorem trimEnd_eq_self_iff : trimEnd text = text ↔ text = [] ∨ Firm text := by
  have hself : trimEnd text = text ↔ ∀ hne : text ≠ [], ¬ isBlank (text.getLast hne) = true :=
    List.rdropWhile_eq_self_iff
  rw [hself]
  constructor
  · intro h
    by_cases hne : text = []
    · exact .inl hne
    · exact .inr ⟨_, List.getLast?_eq_some_getLast hne, Bool.eq_false_iff.2 (h hne)⟩
  · rintro (rfl | ⟨c, hlast, hc⟩) hne
    · exact absurd rfl hne
    · rw [List.getLast?_eq_some_getLast hne, Option.some.injEq] at hlast
      rw [hlast, hc]
      exact Bool.false_ne_true

theorem Firm.trimEnd (h : Firm text) : Blank.trimEnd text = text :=
  trimEnd_eq_self_iff.2 (.inr h)

/-! ## A line feed at the end -/

theorem dropFeed_concat (text : List Char) : dropFeed (text ++ ['\n']) = text := by
  unfold dropFeed
  rw [if_pos List.getLast?_concat, List.dropLast_concat]

theorem dropFeed_of_ne (h : text.getLast? ≠ some '\n') : dropFeed text = text :=
  if_neg h

theorem Firm.dropFeed (h : Firm text) : Blank.dropFeed text = text := by
  obtain ⟨c, hlast, hc⟩ := h
  refine dropFeed_of_ne fun hfeed => ?_
  rw [hlast, Option.some.injEq] at hfeed
  rw [hfeed] at hc
  exact absurd hc (by decide)

theorem dropFeed_append (h : text ≠ []) (before : List Char) :
    dropFeed (before ++ text) = before ++ dropFeed text := by
  by_cases hfeed : text.getLast? = some '\n'
  · obtain ⟨rest, rfl⟩ := List.getLast?_eq_some_iff.1 hfeed
    rw [← List.append_assoc, dropFeed_concat, dropFeed_concat]
  · have hlast : (before ++ text).getLast? ≠ some '\n' := by
      rw [List.getLast?_append, List.getLast?_eq_some_getLast h]
      rwa [List.getLast?_eq_some_getLast h] at hfeed
    rw [dropFeed_of_ne hfeed, dropFeed_of_ne hlast]

/-- A line feed is blank, so that trimming removes it before anything else. -/
theorem trimEnd_dropFeed (text : List Char) : trimEnd (dropFeed text) = trimEnd text := by
  by_cases hfeed : text.getLast? = some '\n'
  · obtain ⟨rest, rfl⟩ := List.getLast?_eq_some_iff.1 hfeed
    rw [dropFeed_concat]
    exact (List.rdropWhile_concat_pos isBlank rest '\n' rfl).symm
  · rw [dropFeed_of_ne hfeed]

theorem trimEnd_eq_dropFeed_iff :
    trimEnd text = dropFeed text ↔ dropFeed text = [] ∨ Firm (dropFeed text) := by
  rw [← trimEnd_dropFeed, trimEnd_eq_self_iff]

/-- What follows a line feed is firm or not on its own, also where nothing follows. -/
theorem firm_feed_append_iff : Firm (before ++ ['\n'] ++ text) ↔ Firm text := by
  cases text with
  | nil =>
    rw [List.append_nil]
    constructor
    · rintro ⟨c, hlast, hc⟩
      rw [List.getLast?_concat, Option.some.injEq] at hlast
      rw [← hlast] at hc
      exact absurd hc (by decide)
    · intro h
      exact absurd rfl h.ne_nil
  | cons c rest => exact firm_append_iff (List.cons_ne_nil c rest)

end PluginKit.Blank
