/-!
# Cutting texts

A text is cut at the last place of a separator, which stands in neither part.
-/

namespace PluginKit.Cut

/-- The text before the last separator and the text after it; none without a separator. -/
def last? (separator : Char) : List Char → Option (List Char × List Char)
  | [] => none
  | c :: rest =>
    match last? separator rest with
    | some (before, after) => some (c :: before, after)
    | none => if c = separator then some ([], rest) else none

/-! ## Lemmas -/

theorem last?_eq_none {separator : Char} {text : List Char} (h : separator ∉ text) :
    last? separator text = none := by
  induction text with
  | nil => rfl
  | cons c rest ih =>
    rw [List.mem_cons, not_or] at h
    simp [last?, ih h.2, Ne.symm h.1]

theorem last?_append {separator : Char} (before : List Char) {after : List Char}
    (h : separator ∉ after) :
    last? separator (before ++ separator :: after) = some (before, after) := by
  induction before with
  | nil => simp [last?, last?_eq_none h]
  | cons c before ih => simp [last?, ih]

theorem not_mem_of_last?_eq_none {separator : Char} {text : List Char}
    (h : last? separator text = none) : separator ∉ text := by
  induction text with
  | nil => exact List.not_mem_nil
  | cons c rest ih =>
    rw [last?] at h
    split at h
    · cases h
    · next hrest =>
      split at h
      · cases h
      · next hc => exact List.not_mem_cons_of_ne_of_not_mem (Ne.symm hc) (ih hrest)

/-- The two parts with the separator between them are the text, and the cut is the last. -/
theorem eq_append_of_last?_eq_some {separator : Char} {text before after : List Char}
    (h : last? separator text = some (before, after)) :
    text = before ++ separator :: after ∧ separator ∉ after := by
  induction text generalizing before with
  | nil => cases h
  | cons c rest ih =>
    rw [last?] at h
    split at h
    · next first second hrest =>
      cases h
      obtain ⟨hsplit, hafter⟩ := ih hrest
      exact ⟨by rw [hsplit, List.cons_append], hafter⟩
    · next hrest =>
      split at h
      · next hc =>
        cases h
        exact ⟨by rw [hc, List.nil_append], not_mem_of_last?_eq_none hrest⟩
      · cases h

end PluginKit.Cut
