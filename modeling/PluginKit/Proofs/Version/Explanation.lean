import PluginKit.Proofs.Version.PartialOrder
import PluginKit.Proofs.Version.Shortfall

/-!
# Explanations of a verdict

Where no exact match is asked for, there is one reason at most, and it names the first number at
which the requirement is unmet:

    level.Unmet required actual → shortfalls required actual = [level.reason required actual]
                                                                     (shortfalls_of_unmet)
    (∃ level, Unmet required actual level) ↔ actual.satisfies required = false  (exists_unmet_iff)

In words the reasons begin with phrases of their own, so that the words tell which number it is
(`message_reason_injective`).
-/

namespace PluginKit.Version

variable {required actual : Version}

/-! ## Levels -/

/-- The numbers of a version, which are compared in this order. -/
inductive Level
  | major
  | minor
  | patch
  deriving DecidableEq, Repr

namespace Level

/-- The requirement is unmet at this number, and the numbers before it agree. -/
def Unmet (required actual : Version) : Level → Prop
  | .major => required.major ≠ actual.major
  | .minor => required.major = actual.major ∧ actual.minor < required.minor
  | .patch =>
    required.major = actual.major ∧ required.minor = actual.minor ∧ actual.patch < required.patch

/-- The phrase that names this number. -/
def phrase : Level → String
  | .major => "Major version mismatch"
  | .minor => "Required minor version"
  | .patch => "Required patch level"

/-- The reason that names this number. -/
def reason (required actual : Version) : Level → Shortfall
  | .major => .major required.major actual.major
  | .minor => .minor required.minor actual.minor
  | .patch => .patch required.patch actual.patch

end Level

/-! ## Words -/

/-- The text begins with this one. -/
def Begins (first text : String) : Prop :=
  ∃ rest, text = first ++ rest

theorem Begins.append {first text : String} (h : Begins first text) (other : String) :
    Begins first (text ++ other) := by
  obtain ⟨rest, rfl⟩ := h
  exact ⟨rest ++ other, String.append_assoc⟩

/-- The phrase with which a reason begins. -/
def Shortfall.phrase : Shortfall → String
  | .tag _ _ => "Tag mismatch"
  | .components _ _ => "Exact match required"
  | .major _ _ => Level.major.phrase
  | .minor _ _ => Level.minor.phrase
  | .patch _ _ => Level.patch.phrase

theorem Shortfall.begins_message (reason : Shortfall) : Begins reason.phrase reason.message := by
  cases reason with
  | tag required found =>
    have h : Begins "Tag mismatch" "Tag mismatch: required " := ⟨": required ", rfl⟩
    exact ((h.append _).append _).append _
  | components required found =>
    have h : Begins "Exact match required"
        "Exact match required for tagged or 0.x versions: required " :=
      ⟨" for tagged or 0.x versions: required ", rfl⟩
    exact ((h.append _).append _).append _
  | major required found =>
    have h : Begins "Major version mismatch" "Major version mismatch: required v" :=
      ⟨": required v", rfl⟩
    exact ((h.append _).append _).append _
  | minor required found =>
    have h : Begins "Required minor version" "Required minor version (" := ⟨" (", rfl⟩
    exact (((h.append _).append _).append _).append _
  | patch required found =>
    have h : Begins "Required patch level" "Required patch level (" := ⟨" (", rfl⟩
    exact (((h.append _).append _).append _).append _

theorem Level.begins_message (required actual : Version) (level : Level) :
    Begins level.phrase (level.reason required actual).message := by
  cases level <;> exact Shortfall.begins_message _

/-- The words of a reason tell which number it names. -/
theorem message_reason_injective {level other : Level}
    (h : (level.reason required actual).message = (other.reason required actual).message) :
    level = other := by
  -- the phrases already differ in their first ten characters
  have hphrases : ∀ l l' : Level, l.phrase.toList.take 10 = l'.phrase.toList.take 10 → l = l' := by
    intro l l'
    cases l <;> cases l' <;> decide
  have hlength : ∀ l : Level, 10 ≤ l.phrase.toList.length := by
    intro l
    cases l <;> decide
  have hstart : ∀ l : Level,
      (l.reason required actual).message.toList.take 10 = l.phrase.toList.take 10 := by
    intro l
    obtain ⟨rest, hrest⟩ := l.begins_message required actual
    rw [hrest, String.toList_append, List.take_append_of_le_length (hlength l)]
  refine hphrases level other ?_
  rw [← hstart level, h, hstart other]

theorem shortfalls_of_unmet (hexact : needsExact required actual = false) {level : Level}
    (h : level.Unmet required actual) :
    shortfalls required actual = [level.reason required actual] := by
  rw [shortfalls_of_not_needsExact hexact]
  cases level with
  | major => exact if_pos h
  | minor =>
    obtain ⟨hmajor, hminor⟩ := h
    rw [if_neg (not_not.2 hmajor), if_pos hminor]
    rfl
  | patch =>
    obtain ⟨hmajor, hminor, hpatch⟩ := h
    rw [if_neg (not_not.2 hmajor), if_neg (by omega), if_pos ⟨hminor, hpatch⟩]
    rfl

theorem exists_unmet_iff (hexact : needsExact required actual = false) :
    (∃ level, Level.Unmet required actual level) ↔ actual.satisfies required = false := by
  constructor
  · rintro ⟨level, h⟩
    rw [← Bool.not_eq_true, ← shortfalls_eq_nil_iff, shortfalls_of_unmet hexact h]
    exact List.cons_ne_nil _ _
  · intro h
    rw [← Bool.not_eq_true, satisfies_of_not_needsExact hexact, Prod.Lex.toLex_le_toLex] at h
    by_cases hmajor : required.major = actual.major
    · by_cases hminor : actual.minor < required.minor
      · exact ⟨.minor, hmajor, hminor⟩
      · exact ⟨.patch, hmajor, by omega⟩
    · exact ⟨.major, hmajor⟩

/-! ## Explanations -/

/-- The reasons against a version in words. -/
def explanation (required actual : Version) : List String :=
  (shortfalls required actual).map Shortfall.message

theorem explanation_eq_nil_iff :
    explanation required actual = [] ↔ actual.satisfies required = true := by
  rw [← shortfalls_eq_nil_iff]
  exact List.map_eq_nil_iff

theorem explanation_of_needsExact (h : needsExact required actual = true) :
    explanation required actual =
      (if required.tag = actual.tag then []
        else [(Shortfall.tag required.tag actual.tag).message]) ++
      (if required.components = actual.components then []
        else [(Shortfall.components required actual).message]) := by
  unfold explanation
  rw [shortfalls_of_needsExact h, List.map_append]
  split <;> split <;> rfl

/-- Where no exact match is asked for, an explanation is one reason, and by its words it names the
number at which the requirement is unmet. -/
theorem explanation_eq_singleton_iff (hexact : needsExact required actual = false) (level : Level) :
    explanation required actual = [(level.reason required actual).message] ↔
      level.Unmet required actual := by
  constructor
  · intro h
    have hnot : actual.satisfies required = false := by
      rw [← Bool.not_eq_true, ← explanation_eq_nil_iff, h]
      exact List.cons_ne_nil _ _
    obtain ⟨unmet, hunmet⟩ := (exists_unmet_iff hexact).2 hnot
    unfold explanation at h
    rw [shortfalls_of_unmet hexact hunmet] at h
    rwa [← message_reason_injective (List.singleton_injective h)]
  · intro h
    unfold explanation
    rw [shortfalls_of_unmet hexact h]
    rfl

/-- **An explanation names what is unmet.**  It is empty exactly if the version satisfies the
requirement.  Where only an exact match counts, it names the tags if they differ and then the
components if they differ; elsewhere it is the one reason that names the first of the three numbers
at which the requirement is unmet. -/
theorem explanation_names_unmet (required actual : Version) :
    let exact := required.isTagged = true ∨ actual.isTagged = true ∨ required.major = 0 ∨
      actual.major = 0
    (explanation required actual = [] ↔ actual.satisfies required = true) ∧
    (exact → explanation required actual =
      (if required.tag = actual.tag then []
        else [(Shortfall.tag required.tag actual.tag).message]) ++
      (if required.components = actual.components then []
        else [(Shortfall.components required actual).message])) ∧
    (¬ exact → ∀ level : Level,
      explanation required actual = [(level.reason required actual).message] ↔
        level.Unmet required actual) ∧
    (¬ exact → (explanation required actual ≠ [] ↔
      ∃! level : Level, level.Unmet required actual)) ∧
    ∀ reason : Shortfall, Begins reason.phrase reason.message := by
  intro exact
  have hnot (h : ¬ exact) : needsExact required actual = false :=
    Bool.eq_false_iff.2 fun hexact => h (needsExact_eq_true.1 hexact)
  refine ⟨explanation_eq_nil_iff, ?_, ?_, ?_, Shortfall.begins_message⟩
  · intro h
    exact explanation_of_needsExact (needsExact_eq_true.2 h)
  · intro h level
    exact explanation_eq_singleton_iff (hnot h) level
  · intro h
    rw [Ne, explanation_eq_nil_iff, Bool.not_eq_true, ← exists_unmet_iff (hnot h)]
    constructor
    · rintro ⟨level, hlevel⟩
      refine ⟨level, hlevel, fun other hother => ?_⟩
      have hreasons := (explanation_eq_singleton_iff (hnot h) other).2 hother
      rw [(explanation_eq_singleton_iff (hnot h) level).2 hlevel] at hreasons
      exact (message_reason_injective (List.singleton_injective hreasons)).symm
    · rintro ⟨level, hlevel, -⟩
      exact ⟨level, hlevel⟩

/-- Two reasons where neither the tag nor a component of an early version is met, and one where an
older patch level of a newer minor number would not matter. -/
theorem explanation_of_early_version :
    explanation { components := [0, 6], tag := none } { components := [0, 7], tag := some "dev" } =
      ["Tag mismatch: required no tag, found 'dev'",
        "Exact match required for tagged or 0.x versions: required 0.6, found 0.7-dev"] ∧
    explanation { components := [1, 4, 0], tag := none }
        { components := [1, 3, 9], tag := none } =
      ["Required minor version (4) is newer than available (3)"] := by
  obtain ⟨-, hexact, -⟩ := explanation_names_unmet
    { components := [0, 6], tag := none } { components := [0, 7], tag := some "dev" }
  obtain ⟨-, -, hlevel, -⟩ := explanation_names_unmet
    { components := [1, 4, 0], tag := none } { components := [1, 3, 9], tag := none }
  constructor
  · rw [hexact (.inr (.inl rfl))]
    decide
  · rw [(hlevel (by decide) .minor).2 ⟨rfl, by decide⟩]
    decide

end PluginKit.Version
