import PluginKit.Json.Printer

/-!
# The characters of numbers

A number is written in digits, signs, the point and the letter before a power of ten, in every
style, and never as the empty text:

    Marked (style.writeBinary x)                                              (marked_writeBinary)
    style.writeBinary x ≠ []                                                  (writeBinary_ne_nil)
-/

namespace PluginKit

namespace Decimal

/-- The characters of numbers. -/
def isMark (c : Char) : Bool :=
  c.isDigit || ['+', '-', '.', 'e'].contains c

/-- The text has no other characters than numbers have. -/
def Marked (text : List Char) : Prop :=
  ∀ c ∈ text, isMark c = true

variable {text digits : List Char}

theorem marked_nil : Marked [] :=
  List.forall_mem_nil _

theorem Marked.cons {c : Char} (h : Marked text) (hc : isMark c = true) : Marked (c :: text) :=
  List.forall_mem_cons.2 ⟨hc, h⟩

theorem Marked.append {first second : List Char} (h : Marked first) (h' : Marked second) :
    Marked (first ++ second) :=
  List.forall_mem_append.2 ⟨h, h'⟩

theorem Marked.of_subset {part : List Char} (h : Marked text) (hsubset : part ⊆ text) :
    Marked part :=
  fun c hc => h c (hsubset hc)

theorem Marked.feed_not_mem (h : Marked text) : '\n' ∉ text :=
  fun hmem => absurd (h _ hmem) (by decide)

theorem marked_numeral (n : Nat) : Marked (Numeral.write n) := by
  intro c hc
  rw [isMark, Numeral.isDigit_of_mem_write hc, Bool.true_or]

theorem marked_positional (h : Marked digits) (places : Int) :
    Marked (positional digits places) := by
  have hzeros : ∀ n, Marked (List.replicate n '0') := by
    intro n c hc
    rw [List.eq_of_mem_replicate hc]
    rfl
  unfold positional
  split
  · exact (((hzeros _).cons rfl).cons rfl).append h
  · refine ((h.of_subset (List.take_subset _ _)).append (hzeros _)).append (Marked.cons ?_ rfl)
    split
    · exact marked_nil.cons rfl
    · exact h.of_subset (List.drop_subset _ _)

theorem marked_scientific (style : Style) (h : Marked digits) (order : Int) :
    Marked (scientific style digits order) := by
  have hfraction : Marked (digits.drop 1) := h.of_subset (List.drop_subset 1 digits)
  unfold scientific
  refine (((h.of_subset (List.take_subset _ _)).append ?_).append (Marked.cons ?_ rfl)).append
    (marked_numeral _)
  · exact iteInduction (fun _ => marked_nil) fun _ => hfraction.cons rfl
  · exact iteInduction (fun _ => marked_nil.cons rfl) fun _ =>
      iteInduction (fun _ => marked_nil.cons rfl) fun _ => marked_nil

theorem marked_write (style : Style) (x : Decimal) : Marked (style.write x) :=
  iteInduction (fun _ => marked_positional (marked_numeral _) _) fun _ =>
    marked_scientific style (marked_numeral _) _

theorem marked_minus (p : Prop) [Decidable p] : Marked (if p then ['-'] else []) :=
  iteInduction (fun _ => marked_nil.cons rfl) fun _ => marked_nil

theorem marked_writeBinary (style : Style) (x : Binary64) : Marked (style.writeBinary x) :=
  (marked_minus _).append (marked_write style _)

theorem positional_ne_nil (digits : List Char) (places : Int) : positional digits places ≠ [] := by
  unfold positional
  split <;> simp

theorem scientific_ne_nil (style : Style) (digits : List Char) (order : Int) :
    scientific style digits order ≠ [] :=
  List.append_ne_nil_of_right_ne_nil _ (Numeral.write_ne_nil _)

theorem write_ne_nil (style : Style) (x : Decimal) : style.write x ≠ [] :=
  iteInduction (motive := (· ≠ [])) (fun _ => positional_ne_nil _ _) fun _ =>
    scientific_ne_nil style _ _

theorem writeBinary_ne_nil (style : Style) (x : Binary64) : style.writeBinary x ≠ [] :=
  List.append_ne_nil_of_right_ne_nil _ (write_ne_nil style _)

end Decimal

theorem Number.marked_write (number : Number) : Decimal.Marked number.write := by
  cases number with
  | int value => exact (Decimal.marked_minus _).append (Decimal.marked_numeral _)
  | float value => exact Decimal.marked_writeBinary _ value

theorem Number.write_ne_nil (number : Number) : number.write ≠ [] := by
  cases number with
  | int value => exact List.append_ne_nil_of_right_ne_nil _ (Numeral.write_ne_nil _)
  | float value => exact Decimal.writeBinary_ne_nil _ value

end PluginKit
