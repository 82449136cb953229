import Mathlib.Data.List.Basic
import Mathlib.Data.List.Induction
import PluginKit.Text.Numeral

/-!
# The values of numerals

Reading accepts exactly the numerals and gives their values; of all numerals with one value, writing
gives the one without superfluous zeros:

    read? text = some n ↔ IsNumeral text ∧ n = value text         (read?_eq_some_iff)
    IsShort text → write (value text) = text                      (write_value)
-/

namespace PluginKit.Numeral

/-- A non-empty run of ASCII digits. -/
structure IsNumeral (text : List Char) : Prop where
  ne_nil : text ≠ []
  isDigit : ∀ c ∈ text, c.isDigit = true

/-- The number that a run of digits denotes. -/
def value (text : List Char) : Nat :=
  Nat.ofDigitChars 10 text 0

/-- A numeral that begins with a zero only if it is `0`. -/
structure IsShort (text : List Char) : Prop extends IsNumeral text where
  eq_zero : text.head? = some '0' → text = ['0']

instance (text : List Char) : Decidable (IsNumeral text) :=
  decidable_of_iff (text ≠ [] ∧ text.all Char.isDigit = true)
    ⟨fun h => ⟨h.1, List.all_eq_true.1 h.2⟩, fun h => ⟨h.ne_nil, List.all_eq_true.2 h.isDigit⟩⟩

instance (text : List Char) : Decidable (IsShort text) :=
  decidable_of_iff (IsNumeral text ∧ (text.head? = some '0' → text = ['0']))
    ⟨fun h => ⟨h.1, h.2⟩, fun h => ⟨h.toIsNumeral, h.eq_zero⟩⟩

/-! ## Reading -/

theorem read?_eq_some_iff {text : List Char} {n : Nat} :
    read? text = some n ↔ IsNumeral text ∧ n = value text := by
  unfold read?
  constructor
  · intro h
    split at h
    · next hn => exact ⟨⟨hn.1, List.all_eq_true.1 hn.2⟩, (Option.some.inj h).symm⟩
    · cases h
  · rintro ⟨hn, rfl⟩
    rw [if_pos ⟨hn.ne_nil, List.all_eq_true.2 hn.isDigit⟩]
    rfl

/-- A character outside the digits stands in no numeral. -/
theorem IsNumeral.not_mem {text : List Char} (h : IsNumeral text) {c : Char}
    (hc : c.isDigit = false) : c ∉ text := by
  intro hmem
  rw [h.isDigit c hmem] at hc
  cases hc

/-! ## Writing -/

theorem value_write (n : Nat) : value (write n) = n :=
  Nat.ofDigitChars_ten_toDigits

theorem value_append_singleton (text : List Char) (c : Char) :
    value (text ++ [c]) = 10 * value text + (c.toNat - '0'.toNat) := by
  unfold value
  rw [Nat.ofDigitChars_append, Nat.ofDigitChars_cons, Nat.ofDigitChars_nil]

theorem isNumeral_write (n : Nat) : IsNumeral (write n) :=
  ⟨write_ne_nil n, fun _ hc => isDigit_of_mem_write hc⟩

theorem write_of_lt {n : Nat} (h : n < 10) : write n = [n.digitChar] :=
  Nat.toDigits_of_lt_base h

theorem write_of_le {n : Nat} (h : 10 ≤ n) : write n = write (n / 10) ++ [(n % 10).digitChar] :=
  Nat.toDigits_of_base_le (by decide) h

theorem write_eq_zero {n : Nat} (h : write n = ['0']) : n = 0 := by
  rw [← value_write n, h]
  rfl

/-- Writing leaves no superfluous zeros. -/
theorem isShort_write (n : Nat) : IsShort (write n) := by
  refine ⟨isNumeral_write n, ?_⟩
  induction n using Nat.strongRecOn with
  | ind n ih =>
    intro hhead
    rcases Nat.lt_or_ge n 10 with hn | hn
    · rw [write_of_lt hn] at hhead ⊢
      exact congrArg (· :: []) (Option.some.inj hhead)
    · -- the first digit is that of `n / 10`, which is not 0
      rw [write_of_le hn, List.head?_append_of_ne_nil _ (write_ne_nil _)] at hhead
      have hzero := write_eq_zero (ih (n / 10) (by omega) hhead)
      omega

theorem digitChar_sub {c : Char} (h : c.isDigit = true) :
    c.toNat - '0'.toNat < 10 ∧ (c.toNat - '0'.toNat).digitChar = c := by
  obtain ⟨hlo, hhi⟩ : 48 ≤ c.toNat ∧ c.toNat ≤ 57 := Char.isDigit_iff_toNat.1 h
  have hlt : c.toNat - 48 < 10 := by omega
  refine ⟨hlt, Char.toNat_inj.1 ?_⟩
  have := Nat.toNat_digitChar_of_lt_ten hlt
  show (c.toNat - 48).digitChar.toNat = c.toNat
  omega

/-- The part of a numeral before its last digit is a numeral without superfluous zeros as well. -/
theorem IsShort.of_append_singleton {text : List Char} {c : Char} (h : IsShort (text ++ [c]))
    (hne : text ≠ []) : IsShort text ∧ text.head? ≠ some '0' := by
  have hhead : text.head? ≠ some '0' := by
    intro hz
    have := h.eq_zero (by rw [List.head?_append_of_ne_nil _ hne, hz])
    cases text with
    | nil => exact hne rfl
    | cons d rest => simp at this
  exact ⟨⟨⟨hne, fun d hd => h.isDigit d (List.mem_append_left _ hd)⟩, fun hz => absurd hz hhead⟩,
    hhead⟩

/-- A numeral without superfluous zeros is the written form of its value. -/
theorem write_value {text : List Char} (h : IsShort text) : write (value text) = text := by
  induction text using List.reverseRecOn with
  | nil => exact absurd rfl h.ne_nil
  | append_singleton text c ih =>
    obtain ⟨hlt, hchar⟩ := digitChar_sub (h.isDigit c (by simp))
    rw [value_append_singleton]
    by_cases hnil : text = []
    · subst hnil
      show write (10 * 0 + (c.toNat - '0'.toNat)) = [c]
      rw [Nat.mul_zero, Nat.zero_add, write_of_lt hlt, hchar]
    · obtain ⟨hshort, hhead⟩ := h.of_append_singleton hnil
      have htext := ih hshort
      have hpos : value text ≠ 0 := by
        intro hz
        rw [hz] at htext
        exact hhead (by rw [← htext]; rfl)
      have hle : 10 ≤ 10 * value text + (c.toNat - '0'.toNat) := by omega
      have hdiv : (10 * value text + (c.toNat - '0'.toNat)) / 10 = value text := by omega
      have hmod : (10 * value text + (c.toNat - '0'.toNat)) % 10 = c.toNat - '0'.toNat := by omega
      rw [write_of_le hle, hdiv, hmod, htext, hchar]

end PluginKit.Numeral
