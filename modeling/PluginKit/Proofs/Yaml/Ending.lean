import PluginKit.Proofs.Json.Ending
import PluginKit.Yaml.Printer

/-!
# The ends of YAML texts

The last line of a YAML text is that of the leaf that stands last in the value:

    EndsLine (write v) v.lastLeaf                                               (endsLine_write)

So a YAML text is firm before its last line feed unless this leaf is a text that is written without
quotes and is not firm itself:

    Firm (dropFeed (write v)) ↔ ∀ text, v.lastLeaf = .str text → KeepsEnd text.toList
                                                                                (dropFeed_write)
-/

namespace PluginKit

open Blank

/-! ## The last leaf -/

namespace Json

mutual

/-- The scalar or empty collection that stands last in a value. -/
def lastLeaf : Json → Json
  | .null => .null
  | .bool value => .bool value
  | .num value => .num value
  | .str value => .str value
  | .arr items => (lastOfItems? items).getD (.arr [])
  | .obj entries => (lastOfEntries? entries).getD (.obj [])

/-- The leaf that stands last in the items of a list, if there are any. -/
def lastOfItems? : List Json → Option Json
  | [] => none
  | item :: rest => some ((lastOfItems? rest).getD (lastLeaf item))

/-- The leaf that stands last in the entries of an object, if there are any. -/
def lastOfEntries? : List (String × Json) → Option Json
  | [] => none
  | (_, value) :: rest => some ((lastOfEntries? rest).getD (lastLeaf value))

end

end Json

namespace Yaml

/-- The text ends in the line of this leaf. -/
def EndsLine (text : List Char) (leaf : Json) : Prop :=
  ∃ before column, text = before ++ writeLine column leaf

variable {text : List Char} {leaf : Json}

theorem endsLine_writeLine (column : Nat) (leaf : Json) : EndsLine (writeLine column leaf) leaf :=
  ⟨[], column, rfl⟩

theorem EndsLine.append (h : EndsLine text leaf) (before : List Char) :
    EndsLine (before ++ text) leaf := by
  obtain ⟨first, column, rfl⟩ := h
  exact ⟨before ++ first, column, (List.append_assoc _ _ _).symm⟩

theorem EndsLine.cons (h : EndsLine text leaf) (c : Char) : EndsLine (c :: text) leaf :=
  h.append [c]

mutual

theorem endsLine_writeInside (column : Nat) (v : Json) :
    EndsLine (writeInside column v) v.lastLeaf := by
  cases v with
  | null => exact endsLine_writeLine column .null
  | bool value => exact endsLine_writeLine column (.bool value)
  | num value => exact endsLine_writeLine column (.num value)
  | str value => exact endsLine_writeLine column (.str value)
  | arr items =>
    cases items with
    | nil => exact endsLine_writeLine column (.arr [])
    | cons item rest => exact endsLine_writeItems [] (column + 2) (item :: rest) rfl
  | obj entries =>
    cases entries with
    | nil => exact endsLine_writeLine column (.obj [])
    | cons entry rest => exact endsLine_writeEntries [] (column + 2) (entry :: rest) rfl

theorem endsLine_writeBelow (column : Nat) (v : Json) :
    EndsLine (writeBelow column v) v.lastLeaf := by
  cases v with
  | null => exact (endsLine_writeLine column .null).cons ' '
  | bool value => exact (endsLine_writeLine column (.bool value)).cons ' '
  | num value => exact (endsLine_writeLine column (.num value)).cons ' '
  | str value => exact (endsLine_writeLine column (.str value)).cons ' '
  | arr items =>
    cases items with
    | nil => exact (endsLine_writeLine column (.arr [])).cons ' '
    | cons item rest => exact (endsLine_writeItems _ column (item :: rest) rfl).cons '\n'
  | obj entries =>
    cases entries with
    | nil => exact (endsLine_writeLine column (.obj [])).cons ' '
    | cons entry rest => exact (endsLine_writeEntries _ (column + 2) (entry :: rest) rfl).cons '\n'

theorem endsLine_writeItems (lead : List Char) (column : Nat) (items : List Json) {leaf : Json}
    (h : Json.lastOfItems? items = some leaf) : EndsLine (writeItems lead column items) leaf := by
  cases items with
  | nil => cases h
  | cons item rest =>
    obtain rfl : (Json.lastOfItems? rest).getD item.lastLeaf = leaf := Option.some.inj h
    rw [writeItems]
    cases rest with
    | nil =>
      rw [writeItems, List.append_nil]
      exact ((endsLine_writeInside column item).append ['-', ' ']).append lead
    | cons next rest => exact (endsLine_writeItems _ column (next :: rest) rfl).append _

theorem endsLine_writeEntries (lead : List Char) (column : Nat) (entries : List (String × Json))
    {leaf : Json} (h : Json.lastOfEntries? entries = some leaf) :
    EndsLine (writeEntries lead column entries) leaf := by
  cases entries with
  | nil => cases h
  | cons entry rest =>
    obtain ⟨key, value⟩ := entry
    obtain rfl : (Json.lastOfEntries? rest).getD value.lastLeaf = leaf := Option.some.inj h
    rw [writeEntries]
    cases rest with
    | nil =>
      rw [writeEntries, List.append_nil]
      refine EndsLine.append ?_ lead
      split
      · exact ((endsLine_writeBelow column value).cons ':').append _
      · exact ((endsLine_writeInside column value).append [':', ' ']).append _
    | cons next rest => exact (endsLine_writeEntries _ column (next :: rest) rfl).append _

end

theorem endsLine_write (v : Json) : EndsLine (write v) v.lastLeaf := by
  cases v with
  | null => exact endsLine_writeLine 0 .null
  | bool value => exact endsLine_writeLine 0 (.bool value)
  | num value => exact endsLine_writeLine 0 (.num value)
  | str value => exact endsLine_writeLine 0 (.str value)
  | arr items =>
    cases items with
    | nil => exact endsLine_writeLine 0 (.arr [])
    | cons item rest => exact endsLine_writeItems [] 0 (item :: rest) rfl
  | obj entries =>
    cases entries with
    | nil => exact endsLine_writeLine 0 (.obj [])
    | cons entry rest => exact endsLine_writeEntries [] 0 (entry :: rest) rfl

/-! ## Texts -/

/-- A text that is written without quotes is firm, apart from one line feed at its end. -/
def KeepsEnd (text : List Char) : Prop :=
  styleOf text = .plain ∨ styleOf text = .literal → Firm (dropFeed text)

theorem getLast?_indented (column : Nat) (fresh : Bool) (text : List Char) :
    (indented column fresh text).getLast? = text.getLast? := by
  induction text generalizing fresh with
  | nil => rfl
  | cons c rest ih =>
    rw [indented, List.getLast?_cons]
    split
    · rw [List.getLast?_cons, ih]
    · rw [List.getLast?_append, List.getLast?_cons, ih]
      rfl

theorem indented_feed (column : Nat) (fresh : Bool) (text : List Char) :
    indented column fresh (text ++ ['\n']) = indented column fresh text ++ ['\n'] := by
  induction text generalizing fresh with
  | nil => rfl
  | cons c rest ih =>
    rw [List.cons_append, indented, indented]
    split
    · rw [ih, List.cons_append]
    · rw [ih, List.append_assoc, List.cons_append]

theorem dropFeed_indented (column : Nat) (fresh : Bool) (text : List Char) :
    dropFeed (indented column fresh text) = indented column fresh (dropFeed text) := by
  by_cases hfeed : text.getLast? = some '\n'
  · obtain ⟨rest, rfl⟩ := List.getLast?_eq_some_iff.1 hfeed
    rw [indented_feed, dropFeed_concat, dropFeed_concat]
  · rw [dropFeed_of_ne hfeed, dropFeed_of_ne (by rwa [getLast?_indented])]

theorem firm_indented_iff (column : Nat) (fresh : Bool) :
    Firm (indented column fresh text) ↔ Firm text := by
  unfold Firm
  rw [getLast?_indented]

theorem indented_ne_nil (hne : text ≠ []) (column : Nat) (fresh : Bool) :
    indented column fresh text ≠ [] := by
  rw [Ne, ← List.getLast?_eq_none_iff, getLast?_indented, List.getLast?_eq_none_iff]
  exact hne

/-- The lines of a literal block stand below a line of its own. -/
theorem exists_literalBlock_eq (column : Nat) (text : List Char) :
    ∃ header, literalBlock column text = header ++ ['\n'] ++ indented column true text :=
  ⟨_, List.append_cons _ _ _⟩

theorem exists_dropFeed_literalBlock_eq (column : Nat) (hne : text ≠ []) :
    ∃ header, dropFeed (literalBlock column text) =
      header ++ ['\n'] ++ indented column true (dropFeed text) := by
  obtain ⟨header, hblock⟩ := exists_literalBlock_eq column text
  refine ⟨header, ?_⟩
  rw [hblock, dropFeed_append (indented_ne_nil hne column true), dropFeed_indented]

/-- A plain text is not empty and has no line feed at its end. -/
theorem dropFeed_of_plain (h : styleOf text = .plain) : dropFeed text = text ∧ text ≠ [] := by
  constructor
  · refine dropFeed_of_ne fun hfeed => ?_
    have hmem : text.contains '\n' = true :=
      List.contains_iff_mem.2 (List.mem_of_getLast? hfeed)
    unfold styleOf at h
    grind
  · rintro rfl
    cases h

theorem writeText_of_plain (column : Nat) {text : String} (h : styleOf text.toList = .plain) :
    writeText column text = text.toList := by
  unfold writeText
  simp only [h]

theorem writeText_of_literal (column : Nat) {text : String}
    (h : styleOf text.toList = .literal) :
    writeText column text = literalBlock (column + 2) text.toList := by
  unfold writeText
  simp only [h]

/-- Between quotes a text ends in a quote. -/
theorem firm_writeText (column : Nat) {text : String}
    (h : styleOf text.toList = .single ∨ styleOf text.toList = .double) :
    Firm (writeText column text) := by
  unfold writeText
  rcases h with h | h
  · simp only [h]
    exact firm_concat (by decide) _
  · simp only [h]
    exact firm_concat (by decide) _

/-- However a text is written, something stands before a line feed at its end, and it is firm where
the text keeps its end. -/
theorem dropFeed_writeText (column : Nat) (text : String) :
    dropFeed (writeText column text) ≠ [] ∧
      (Firm (dropFeed (writeText column text)) ↔ KeepsEnd text.toList) := by
  have hquoted (h : styleOf text.toList = .single ∨ styleOf text.toList = .double) :
      dropFeed (writeText column text) ≠ [] ∧
        (Firm (dropFeed (writeText column text)) ↔ KeepsEnd text.toList) := by
    have hfirm := firm_writeText column h
    rw [hfirm.dropFeed]
    refine ⟨hfirm.ne_nil, fun _ hunquoted => ?_, fun _ => hfirm⟩
    rcases h with h | h <;> rw [h] at hunquoted <;> exact absurd hunquoted (by decide)
  have hunquoted (h : styleOf text.toList = .plain ∨ styleOf text.toList = .literal) :
      Firm (dropFeed text.toList) ↔ KeepsEnd text.toList :=
    ⟨fun hfirm _ => hfirm, fun hkeeps => hkeeps h⟩
  cases hstyle : styleOf text.toList with
  | plain =>
    obtain ⟨hdrop, hne⟩ := dropFeed_of_plain hstyle
    rw [writeText_of_plain column hstyle]
    exact ⟨by rwa [hdrop], hunquoted (.inl hstyle)⟩
  | single => exact hquoted (.inl hstyle)
  | double => exact hquoted (.inr hstyle)
  | literal =>
    have hne : text.toList ≠ [] := by
      intro hnil
      rw [hnil] at hstyle
      cases hstyle
    obtain ⟨header, hblock⟩ := exists_dropFeed_literalBlock_eq (column + 2) hne
    rw [writeText_of_literal column hstyle, hblock, firm_feed_append_iff, firm_indented_iff]
    exact ⟨by simp, hunquoted (.inr hstyle)⟩

/-! ## Lines -/

theorem dropFeed_endLine (text : List Char) : dropFeed (endLine text) = dropFeed text := by
  unfold endLine
  split
  · rfl
  · next hbreak =>
    rw [dropFeed_concat, dropFeed_of_ne]
    intro hfeed
    rw [hfeed] at hbreak
    exact hbreak rfl

/-- Apart from its line feed, the line of a leaf is not empty, and it is firm unless the leaf is a
text that does not keep its end. -/
theorem dropFeed_writeLine (column : Nat) (leaf : Json) :
    dropFeed (writeLine column leaf) ≠ [] ∧
      (Firm (dropFeed (writeLine column leaf)) ↔
        ∀ text, leaf = .str text → KeepsEnd text.toList) := by
  have hfirm : ∀ {line : List Char}, Firm line → (∀ text, leaf ≠ .str text) →
      dropFeed (line ++ ['\n']) ≠ [] ∧
        (Firm (dropFeed (line ++ ['\n'])) ↔ ∀ text, leaf = .str text → KeepsEnd text.toList) := by
    intro line hline hleaf
    rw [dropFeed_concat]
    exact ⟨hline.ne_nil, fun _ text h => absurd h (hleaf text), fun _ => hline⟩
  cases leaf with
  | null => exact hfirm (firm_concat (by decide) ['n', 'u', 'l']) nofun
  | bool value =>
    cases value with
    | false => exact hfirm (firm_concat (by decide) ['f', 'a', 'l', 's']) nofun
    | true => exact hfirm (firm_concat (by decide) ['t', 'r', 'u']) nofun
  | num value =>
    have hnumber : Firm (writeNumber value) := by
      cases value with
      | int value => exact Number.firm_write (.int value)
      | float value => exact Decimal.firm_writeBinary numberStyle value
    exact hfirm hnumber nofun
  | str value =>
    rw [writeLine, dropFeed_endLine]
    obtain ⟨hne, hkeeps⟩ := dropFeed_writeText column value
    refine ⟨hne, hkeeps.trans ⟨?_, fun h => h value rfl⟩⟩
    rintro hend text ⟨⟩
    exact hend
  | arr items => exact hfirm (firm_concat (by decide) ['[']) nofun
  | obj entries => exact hfirm (firm_concat (by decide) ['{']) nofun

/-- The line of a leaf ends in a line break. -/
theorem exists_break_writeLine (column : Nat) (leaf : Json) :
    ∃ c, (writeLine column leaf).getLast? = some c ∧ isBreak c = true := by
  have hfeed : ∀ line : List Char, ∃ c, (line ++ ['\n']).getLast? = some c ∧ isBreak c = true :=
    fun line => ⟨'\n', List.getLast?_concat, rfl⟩
  cases leaf with
  | null => exact hfeed ['n', 'u', 'l', 'l']
  | bool value =>
    cases value with
    | false => exact hfeed ['f', 'a', 'l', 's', 'e']
    | true => exact hfeed ['t', 'r', 'u', 'e']
  | num value => exact hfeed (writeNumber value)
  | str value =>
    rw [writeLine, endLine]
    split
    · next hbreak => exact (Option.any_eq_true _ _).1 hbreak
    · exact hfeed _
  | arr items => exact hfeed ['[', ']']
  | obj entries => exact hfeed ['{', '}']

/-! ## Values -/

/-- Apart from its last line feed, a YAML text is not empty, and it is firm exactly if a text that
stands last in the value keeps its end. -/
theorem dropFeed_write (v : Json) :
    dropFeed (write v) ≠ [] ∧
      (Firm (dropFeed (write v)) ↔
        ∀ text, v.lastLeaf = .str text → KeepsEnd text.toList) := by
  obtain ⟨before, column, hwrite⟩ := endsLine_write v
  obtain ⟨hne, hfirm⟩ := dropFeed_writeLine column v.lastLeaf
  have hline : writeLine column v.lastLeaf ≠ [] := by
    intro hnil
    rw [hnil] at hne
    exact hne rfl
  rw [hwrite, dropFeed_append hline, firm_append_iff hne, hfirm]
  exact ⟨List.append_ne_nil_of_right_ne_nil _ hne, Iff.rfl⟩

theorem isBlank_of_isBreak {c : Char} (h : isBreak c = true) : Blank.isBlank c = true := by
  unfold isBreak at h
  simp only [Bool.or_eq_true, beq_iff_eq] at h
  rcases h with (((rfl | rfl) | rfl) | rfl) | rfl <;> decide

/-- A text that is firm before its last line feed has one. -/
theorem write_eq_of_firm {v : Json} (h : Firm (dropFeed (write v))) :
    write v = dropFeed (write v) ++ ['\n'] := by
  by_cases hfeed : (write v).getLast? = some '\n'
  · obtain ⟨rest, hrest⟩ := List.getLast?_eq_some_iff.1 hfeed
    rw [hrest, dropFeed_concat]
  · -- then the text ends in another line break, which is not firm
    rw [dropFeed_of_ne hfeed] at h
    obtain ⟨before, column, hwrite⟩ := endsLine_write v
    obtain ⟨c, hc, hbreak⟩ := exists_break_writeLine column v.lastLeaf
    obtain ⟨d, hd, hfirm⟩ := h
    rw [hwrite, List.getLast?_append, hc, Option.some_or, Option.some.injEq] at hd
    rw [← hd, isBlank_of_isBreak hbreak] at hfirm
    cases hfirm

end Yaml

end PluginKit
