/-!
# Texts in parts

A text that is split at a separator has parts without the separator, and a text of joined parts has
no characters but those of the parts and of what stands between them:

    part ∈ text.splitOn separator → separator ∉ part                     (not_mem_of_mem_splitOn)
    c ∈ separator.intercalate parts → c ∈ separator ∨ ∃ part ∈ parts, c ∈ part  (mem_intercalate)
    separator.intercalate (part :: rest) = part ++ rest.flatMap (separator ++ ·)
                                                                           (intercalate_cons)
    part ∈ parts → part <:+: separator.intercalate parts            (infix_intercalate_of_mem)
-/

namespace PluginKit.Split

theorem not_mem_of_mem_splitOn {separator : Char} {text part : List Char}
    (h : part ∈ text.splitOn separator) : separator ∉ part := by
  induction text generalizing part with
  | nil =>
    rw [List.splitOn_nil, List.mem_singleton] at h
    subst h
    exact List.not_mem_nil
  | cons c rest ih =>
    rw [List.splitOn_cons_eq_if_modifyHead] at h
    split at h
    · rcases List.mem_cons.1 h with rfl | h
      · exact List.not_mem_nil
      · exact ih h
    · next hc =>
      -- the first part of the rest is continued to the left
      cases hsplit : rest.splitOn separator with
      | nil => exact absurd hsplit (List.splitOn_ne_nil _ _)
      | cons first others =>
        rw [hsplit] at h ih
        rcases List.mem_cons.1 h with rfl | h
        · exact List.not_mem_cons_of_ne_of_not_mem (fun he => hc (beq_iff_eq.2 he.symm))
            (ih List.mem_cons_self)
        · exact ih (List.mem_cons_of_mem _ h)

theorem mem_intercalate {c : Char} {separator : List Char} {parts : List (List Char)}
    (h : c ∈ separator.intercalate parts) : c ∈ separator ∨ ∃ part ∈ parts, c ∈ part := by
  induction parts with
  | nil => cases h
  | cons part rest ih =>
    by_cases hrest : rest = []
    · subst hrest
      rw [List.intercalate_singleton] at h
      exact .inr ⟨part, List.mem_cons_self, h⟩
    · rw [List.intercalate_cons_of_ne_nil hrest, List.mem_append, List.mem_append] at h
      rcases h with (h | h) | h
      · exact .inr ⟨part, List.mem_cons_self, h⟩
      · exact .inl h
      · rcases ih h with h | ⟨other, hmem, h⟩
        · exact .inl h
        · exact .inr ⟨other, List.mem_cons_of_mem _ hmem, h⟩

theorem intercalate_cons (separator part : List Char) (rest : List (List Char)) :
    separator.intercalate (part :: rest) = part ++ rest.flatMap (separator ++ ·) := by
  induction rest generalizing part with
  | nil => rw [List.intercalate_singleton, List.flatMap_nil, List.append_nil]
  | cons next rest ih =>
    rw [List.intercalate_cons_of_ne_nil (List.cons_ne_nil next rest), ih, List.flatMap_cons,
      List.append_assoc, List.append_assoc]

theorem intercalate_concat_nil (separator : List Char) {parts : List (List Char)}
    (hne : parts ≠ []) :
    separator.intercalate (parts ++ [[]]) = separator.intercalate parts ++ separator := by
  cases parts with
  | nil => exact absurd rfl hne
  | cons part rest =>
    rw [List.cons_append, intercalate_cons, intercalate_cons, List.flatMap_append,
      List.flatMap_singleton, List.append_nil, List.append_assoc]

theorem infix_intercalate_of_mem {part : List Char} {parts : List (List Char)}
    (separator : List Char) (h : part ∈ parts) : part <:+: separator.intercalate parts := by
  cases parts with
  | nil => cases h
  | cons first rest =>
    rw [intercalate_cons]
    rcases List.mem_cons.1 h with rfl | h
    · exact List.infix_append' [] part _
    · have hpart : separator ++ part <:+: rest.flatMap (separator ++ ·) :=
        List.infix_of_mem_flatten (List.mem_map_of_mem h)
      have hshort : part <:+: separator ++ part := (List.suffix_append separator part).isInfix
      exact List.infix_append_of_infix_right (hshort.trans hpart)

end PluginKit.Split
