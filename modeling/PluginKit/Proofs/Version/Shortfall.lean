import PluginKit.Proofs.Version.Order

/-!
# Reasons against a version

There is a reason against a version exactly if it does not satisfy the requirement:

    shortfalls required actual = [] ↔ actual.satisfies required = true       (shortfalls_eq_nil_iff)
-/

namespace PluginKit.Version

variable {required actual : Version}

theorem shortfalls_of_needsExact (h : needsExact required actual = true) :
    shortfalls required actual =
      (if required.tag = actual.tag then [] else [.tag required.tag actual.tag]) ++
        (if required.components = actual.components then [] else [.components required actual]) :=
  if_pos h

theorem shortfalls_of_not_needsExact (h : needsExact required actual = false) :
    shortfalls required actual =
      if required.major ≠ actual.major then [.major required.major actual.major]
      else if actual.minor < required.minor then [.minor required.minor actual.minor]
      else if required.minor = actual.minor ∧ actual.patch < required.patch then
        [.patch required.patch actual.patch]
      else [] :=
  if_neg (by rw [h]; decide)

theorem shortfalls_eq_nil_iff :
    shortfalls required actual = [] ↔ actual.satisfies required = true := by
  cases hexact : needsExact required actual with
  | true =>
    rw [shortfalls_of_needsExact hexact, satisfies_of_needsExact hexact, eq_iff_components_tag,
      List.append_eq_nil_iff]
    simp only [ite_eq_left_iff, List.cons_ne_nil, imp_false, not_not, and_comm]
  | false =>
    rw [shortfalls_of_not_needsExact hexact, satisfies_of_not_needsExact hexact,
      Prod.Lex.toLex_le_toLex]
    by_cases hmajor : required.major = actual.major
    · rw [if_neg (not_not.2 hmajor)]
      split
      · next hminor => simp only [List.cons_ne_nil, false_iff]; omega
      · next hminor =>
        split
        · next hpatch => simp only [List.cons_ne_nil, false_iff]; omega
        · next hpatch => simp only [true_iff]; omega
    · rw [if_pos hmajor]
      simp only [List.cons_ne_nil, hmajor, false_and]

end PluginKit.Version
