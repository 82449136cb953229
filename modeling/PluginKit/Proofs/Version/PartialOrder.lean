import Mathlib.Logic.Relation
import PluginKit.Proofs.Version.Canonical
import PluginKit.Proofs.Version.Order

/-!
# Requirements as a partial order

"The second version satisfies a requirement on the first" is a partial order, and what one version
satisfies is a chain:

    b.satisfies a = true → c.satisfies b = true → c.satisfies a = true           (satisfies_trans)
    c.satisfies a = true → c.satisfies b = true →
      b.satisfies a = true ∨ a.satisfies b = true                                (satisfies_chain)

Only antisymmetry asks for versions in normal form: two versions that are upgrades of each other
have the same numbers, and these are all the components where the major number is not 0.
-/

namespace PluginKit.Version

variable {a b c v : Version}

/-! ## Upgrades -/

theorem Upgrade.trans (hab : Upgrade a b) (hbc : Upgrade b c) : Upgrade a c where
  tag_required := hab.tag_required
  tag_actual := hbc.tag_actual
  major_eq := hab.major_eq.trans hbc.major_eq
  major_ne_zero := hab.major_ne_zero
  le := le_trans hab.le hbc.le

/-- Of two versions with a common upgrade, one is an upgrade of the other. -/
theorem Upgrade.chain (hac : Upgrade a c) (hbc : Upgrade b c) : Upgrade a b ∨ Upgrade b a := by
  have hmajor : a.major = b.major := hac.major_eq.trans hbc.major_eq.symm
  rcases le_total (toLex (a.minor, a.patch)) (toLex (b.minor, b.patch)) with hle | hle
  · exact .inl ⟨hac.tag_required, hbc.tag_required, hmajor, hac.major_ne_zero, hle⟩
  · exact .inr ⟨hbc.tag_required, hac.tag_required, hmajor.symm, hbc.major_ne_zero, hle⟩

/-- The three numbers of a version in normal form are all its components, unless the first is 0. -/
theorem Normal.components_eq (h : Normal v) (hzero : v.major ≠ 0) :
    v.components = [v.major, v.minor, v.patch] := by
  have harity : arity v.major = 3 := if_neg hzero
  rw [h.components_eq_take, harity]
  rfl

theorem Upgrade.antisymm (ha : Normal a) (hb : Normal b) (hab : Upgrade a b)
    (hba : Upgrade b a) : a = b := by
  have hpair : (a.minor, a.patch) = (b.minor, b.patch) :=
    toLex.injective (le_antisymm hab.le hba.le)
  obtain ⟨hminor, hpatch⟩ := Prod.mk.inj hpair
  have hcomponents : a.components = b.components := by
    rw [ha.components_eq hab.major_ne_zero, hb.components_eq hba.major_ne_zero, hab.major_eq,
      hminor, hpatch]
  exact eq_iff_components_tag.2 ⟨hcomponents, hab.tag_required.trans hab.tag_actual.symm⟩

/-! ## Requirements -/

theorem satisfies_refl (v : Version) : v.satisfies v = true :=
  satisfies_iff.2 (.inl rfl)

/-- An upgrade of what satisfies a requirement satisfies it as well. -/
theorem satisfies_trans (hab : b.satisfies a = true) (hbc : c.satisfies b = true) :
    c.satisfies a = true := by
  rw [satisfies_iff] at hab hbc ⊢
  rcases hab with rfl | hab
  · exact hbc
  rcases hbc with rfl | hbc
  · exact .inr hab
  · exact .inr (hab.trans hbc)

/-- What a host satisfies, it satisfies after any number of upgrades. -/
theorem satisfies_of_upgrades (hab : b.satisfies a = true)
    (hsteps : Relation.ReflTransGen (fun v w => w.satisfies v = true) b c) :
    c.satisfies a = true := by
  induction hsteps with
  | refl => exact hab
  | tail _ hstep ih => exact satisfies_trans ih hstep

theorem satisfies_antisymm (ha : Normal a) (hb : Normal b) (hab : b.satisfies a = true)
    (hba : a.satisfies b = true) : a = b := by
  rw [satisfies_iff] at hab hba
  rcases hab with rfl | hab
  · rfl
  rcases hba with rfl | hba
  · rfl
  · exact hab.antisymm ha hb hba

/-- A version that is not padded and the padded one satisfy each other. -/
example :
    let short : Version := { components := [1, 2], tag := none }
    let long : Version := { components := [1, 2, 0], tag := none }
    long.satisfies short = true ∧ short.satisfies long = true ∧ short ≠ long := by
  decide

theorem satisfies_chain (hac : c.satisfies a = true) (hbc : c.satisfies b = true) :
    b.satisfies a = true ∨ a.satisfies b = true := by
  rw [satisfies_iff] at hac hbc
  rcases hac with rfl | hac
  · exact .inr (satisfies_iff.2 hbc)
  rcases hbc with rfl | hbc
  · exact .inl (satisfies_iff.2 (.inr hac))
  · exact (hac.chain hbc).imp (fun h => satisfies_iff.2 (.inr h)) fun h => satisfies_iff.2 (.inr h)

theorem needsExact_eq_true :
    needsExact a c = true ↔
      a.isTagged = true ∨ c.isTagged = true ∨ a.major = 0 ∨ c.major = 0 := by
  unfold needsExact
  simp only [Bool.or_eq_true, beq_iff_eq, or_assoc]

/-- **Satisfying a requirement is a partial order** on the versions that the library hands out, so
that a host which is upgraded step by step keeps satisfying a plugin.  What one version satisfies is
a chain, and a version that is tagged or has major number 0 is comparable with itself only. -/
theorem satisfies_partialOrder :
    (∀ a : Version, a.satisfies a = true) ∧
    (∀ a b : Version, Reachable a → Reachable b →
      b.satisfies a = true → a.satisfies b = true → a = b) ∧
    (∀ a b c : Version, b.satisfies a = true → c.satisfies b = true → c.satisfies a = true) ∧
    (∀ a b c : Version, b.satisfies a = true →
      Relation.ReflTransGen (fun v w : Version => w.satisfies v = true) b c →
        c.satisfies a = true) ∧
    (∀ a b c : Version, c.satisfies a = true → c.satisfies b = true →
      b.satisfies a = true ∨ a.satisfies b = true) ∧
    ∀ a c : Version, (a.isTagged = true ∨ c.isTagged = true ∨ a.major = 0 ∨ c.major = 0) →
      c.satisfies a = true → a = c := by
  refine ⟨satisfies_refl, ?_, ?_, ?_, ?_, ?_⟩
  · intro a b ha hb hab hba
    exact satisfies_antisymm ha.normal hb.normal hab hba
  · intro a b c hab hbc
    exact satisfies_trans hab hbc
  · intro a b c hab hsteps
    exact satisfies_of_upgrades hab hsteps
  · intro a b c hac hbc
    exact satisfies_chain hac hbc
  · intro a c hexact hac
    exact (satisfies_of_needsExact (needsExact_eq_true.2 hexact)).1 hac

/-- The same versions read and built from their parts, a host that is upgraded in two steps, and two
requirements that it satisfies. -/
theorem eq_of_satisfies_of_read :
    (∃ v, parse "01.2" = .ok v ∧ v = ofParts 1 2 0) ∧
      (∃ v w, parse "0.7-dev" = .ok v ∧ (ofParts 0 7 5).withTag "dev" = .ok w ∧ v = w) ∧
      (ofParts 1 4 0).satisfies (ofParts 1 2 0) = true ∧
      ((ofParts 1 2 9).satisfies (ofParts 1 2 0) = true ∨
        (ofParts 1 2 0).satisfies (ofParts 1 2 9) = true) := by
  obtain ⟨hrefl, hantisymm, htrans, hupgrades, hchain, hexact⟩ := satisfies_partialOrder
  have hread : parse "01.2" = .ok { components := [1, 2, 0], tag := none } := rfl
  have hdev : parse "0.7-dev" = .ok { components := [0, 7], tag := some "dev" } := rfl
  have hbuilt : (ofParts 0 7 5).withTag "dev" =
      .ok { components := [0, 7], tag := some "dev" } := rfl
  have hpatch : (ofParts 1 2 9).satisfies (ofParts 1 2 0) = true := by decide
  have hminor : (ofParts 1 4 0).satisfies (ofParts 1 2 9) = true := by decide
  refine ⟨⟨_, hread, ?_⟩, ⟨_, _, hdev, hbuilt, ?_⟩, ?_, ?_⟩
  · exact hantisymm _ _ (.parse hread) (.ofParts 1 2 0) (by decide) (by decide)
  · exact hexact _ _ (.inl rfl) (hrefl _)
  · exact hupgrades _ _ _ (hrefl _) (.tail (.single hpatch) hminor)
  · exact hchain _ _ (ofParts 1 4 0) (htrans _ _ _ hpatch hminor) hminor

end PluginKit.Version
