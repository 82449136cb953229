import PluginKit.Proofs.Decimal.Character
import PluginKit.Proofs.Text.Ending

/-!
# The ends of JSON texts

A JSON text ends in a bracket, a quote, a digit or a letter, on one line as over several:

    Firm v.compact                                                               (firm_compact)
    Firm v.pretty                                                                 (firm_pretty)
-/

namespace PluginKit

open Blank

namespace Decimal

theorem isBlank_of_isMark {c : Char} (h : isMark c = true) : isBlank c = false := by
  have hnone : table.all (fun d => !isMark d) = true := by decide
  refine Bool.eq_false_iff.2 fun hblank => ?_
  have hc := List.all_eq_true.1 hnone c (List.contains_iff_mem.1 hblank)
  rw [h] at hc
  cases hc

theorem Marked.firm {text : List Char} (h : Marked text) (hne : text ≠ []) : Firm text :=
  firm_of_forall hne fun c hc => isBlank_of_isMark (h c hc)

theorem firm_writeBinary (style : Style) (x : Binary64) : Firm (style.writeBinary x) :=
  (marked_writeBinary style x).firm (writeBinary_ne_nil style x)

end Decimal

theorem Number.firm_write (number : Number) : Firm number.write :=
  number.marked_write.firm number.write_ne_nil

namespace Json

theorem firm_quote (text : String) : Firm (quote text) :=
  firm_concat (by decide) _

theorem firm_compact (v : Json) : Firm v.compact := by
  cases v with
  | null => exact firm_concat (by decide) ['n', 'u', 'l']
  | bool value =>
    cases value with
    | false => exact firm_concat (by decide) ['f', 'a', 'l', 's']
    | true => exact firm_concat (by decide) ['t', 'r', 'u']
  | num value => exact value.firm_write
  | str value => exact firm_quote value
  | arr items => exact firm_concat (by decide) _
  | obj entries => exact firm_concat (by decide) _

theorem firm_pretty (v : Json) : Firm v.pretty := by
  cases v with
  | null => exact firm_compact .null
  | bool value => exact firm_compact (.bool value)
  | num value => exact firm_compact (.num value)
  | str value => exact firm_compact (.str value)
  | arr items =>
    cases items with
    | nil => exact firm_concat (by decide) ['[']
    | cons item rest => exact firm_concat (by decide) _
  | obj entries =>
    cases entries with
    | nil => exact firm_concat (by decide) ['{']
    | cons entry rest => exact firm_concat (by decide) _

end Json

end PluginKit
