import Mathlib.Data.Prod.Lex
import PluginKit.Version.Compatibility

/-!
# The order of versions

A requirement is met by the required version itself and by its upgrades, the versions of the same
line that are not older:

    actual.satisfies required = true ↔ required = actual ∨ Upgrade required actual   (satisfies_iff)
-/

namespace PluginKit.Version

/-- Both versions are untagged and have the same major number, which is not 0, and by minor number
and patch level, compared in this order, the second is not older. -/
structure Upgrade (required actual : Version) : Prop where
  tag_required : required.tag = none
  tag_actual : actual.tag = none
  major_eq : required.major = actual.major
  major_ne_zero : required.major ≠ 0
  le : toLex (required.minor, required.patch) ≤ toLex (actual.minor, actual.patch)

theorem eq_iff_components_tag {v w : Version} :
    v = w ↔ v.components = w.components ∧ v.tag = w.tag := by
  constructor
  · rintro rfl
    exact ⟨rfl, rfl⟩
  · rintro ⟨hcomponents, htag⟩
    cases v
    cases w
    exact (Version.mk.injEq _ _ _ _).mpr ⟨hcomponents, htag⟩

theorem needsExact_eq_false {required actual : Version} :
    needsExact required actual = false ↔
      required.tag = none ∧ actual.tag = none ∧ required.major ≠ 0 ∧ actual.major ≠ 0 := by
  unfold needsExact isTagged
  simp only [Bool.or_eq_false_iff, Option.isSome_eq_false_iff, Option.isNone_iff_eq_none,
    beq_eq_false_iff_ne, and_assoc]

theorem satisfies_of_needsExact {required actual : Version}
    (h : needsExact required actual = true) :
    actual.satisfies required = true ↔ required = actual := by
  unfold satisfies
  rw [if_pos h, beq_iff_eq]

theorem satisfies_of_not_needsExact {required actual : Version}
    (h : needsExact required actual = false) :
    actual.satisfies required = true ↔
      required.major = actual.major ∧
        toLex (required.minor, required.patch) ≤ toLex (actual.minor, actual.patch) := by
  unfold satisfies
  rw [if_neg (by rw [h]; decide), Prod.Lex.toLex_le_toLex]
  simp only [Bool.and_eq_true, Bool.or_eq_true, beq_iff_eq, decide_eq_true_eq]

theorem satisfies_iff {required actual : Version} :
    actual.satisfies required = true ↔ required = actual ∨ Upgrade required actual := by
  cases hexact : needsExact required actual with
  | true =>
    rw [satisfies_of_needsExact hexact]
    constructor
    · exact .inl
    · rintro (h | h)
      · exact h
      · -- an upgrade has neither a tag nor major number 0
        have hnot := needsExact_eq_false.2
          ⟨h.tag_required, h.tag_actual, h.major_ne_zero, h.major_eq ▸ h.major_ne_zero⟩
        rw [hexact] at hnot
        cases hnot
  | false =>
    obtain ⟨hrequired, hactual, hzero, -⟩ := needsExact_eq_false.1 hexact
    rw [satisfies_of_not_needsExact hexact]
    constructor
    · rintro ⟨hmajor, hle⟩
      exact .inr ⟨hrequired, hactual, hmajor, hzero, hle⟩
    · rintro (rfl | h)
      · exact ⟨rfl, le_refl _⟩
      · exact ⟨h.major_eq, h.le⟩

end PluginKit.Version
