import PluginKit.Host
import PluginKit.Proofs.Outcome
import PluginKit.Proofs.Version.Order

/-!
# Requirements on a host

`check` and `require` read the same two versions in the same order, so that they agree: `require`
answers where `check` does, and a fault of `check` is the one fatal error with which `require` ends.

    h.check requirement = .error fault ↔
      the version of the host is refused, or it is read and the requirement is refused
                                                                              (check_eq_error)
    h.require requirement = .ok b ↔ h.check requirement = .ok b               (require_eq_ok)
-/

namespace PluginKit.Host

open Outcome

/-! ## Reading a version on behalf of a subject -/

theorem readVersion_eq_ok {subject : Subject} {value : String} {v : Version} :
    readVersion subject value = .ok v ↔ Version.parse value = .ok v :=
  mapError_eq_ok

theorem readVersion_eq_error {subject : Subject} {value : String} {fault : Fault} :
    readVersion subject value = .error fault ↔
      ∃ cause, Version.parse value = .error cause ∧ fault = .invalidVersion subject value cause := by
  unfold readVersion
  rw [mapError_eq_error]
  constructor <;> rintro ⟨cause, hparse, rfl⟩ <;> exact ⟨cause, hparse, rfl⟩

/-! ## Checking -/

theorem check_eq_ok {h : Host} {requirement : String} {b : Bool} :
    h.check requirement = .ok b ↔
      ∃ actual required, Version.parse h.version = .ok actual ∧
        Version.parse requirement = .ok required ∧ actual.satisfies required = b := by
  unfold check
  rw [bind_eq_ok]
  constructor
  · rintro ⟨actual, hactual, h⟩
    obtain ⟨required, hrequired, h⟩ := bind_eq_ok.1 h
    exact ⟨actual, required, readVersion_eq_ok.1 hactual, readVersion_eq_ok.1 hrequired,
      Except.ok.inj h⟩
  · rintro ⟨actual, required, hactual, hrequired, rfl⟩
    exact ⟨actual, readVersion_eq_ok.2 hactual,
      bind_eq_ok.2 ⟨required, readVersion_eq_ok.2 hrequired, rfl⟩⟩

/-- The version of the host is looked at first. -/
theorem check_eq_error {h : Host} {requirement : String} {fault : Fault} :
    h.check requirement = .error fault ↔
      (∃ cause, Version.parse h.version = .error cause ∧
        fault = .invalidVersion .library h.version cause) ∨
      ∃ actual cause, Version.parse h.version = .ok actual ∧
        Version.parse requirement = .error cause ∧
        fault = .invalidVersion .required requirement cause := by
  unfold check
  rw [bind_eq_error, readVersion_eq_error]
  refine or_congr Iff.rfl ?_
  constructor
  · rintro ⟨actual, hactual, h⟩
    rcases bind_eq_error.1 h with h | ⟨required, -, h⟩
    · obtain ⟨cause, hcause, rfl⟩ := readVersion_eq_error.1 h
      exact ⟨actual, cause, readVersion_eq_ok.1 hactual, hcause, rfl⟩
    · cases h
  · rintro ⟨actual, cause, hactual, hcause, rfl⟩
    exact ⟨actual, readVersion_eq_ok.2 hactual,
      bind_eq_error.2 (.inl (readVersion_eq_error.2 ⟨cause, hcause, rfl⟩))⟩

/-! ## Requiring -/

theorem require_eq_ok {h : Host} {requirement : String} {b : Bool} :
    h.require requirement = .ok b ↔ h.check requirement = .ok b :=
  mapError_eq_ok

theorem require_eq_error {h : Host} {requirement : String} {halt : Halt} :
    h.require requirement = .error halt ↔
      ((∃ cause, Version.parse h.version = .error cause) ∧
        halt = ⟨some requireOrigin, "tangelo version number is invalid: " ++ h.version⟩) ∨
      ((∃ actual, Version.parse h.version = .ok actual) ∧
        (∃ cause, Version.parse requirement = .error cause) ∧
        halt = ⟨some requireOrigin, "invalid version string: " ++ requirement⟩) := by
  unfold require
  rw [mapError_eq_error]
  constructor
  · rintro ⟨fault, hcheck, rfl⟩
    rcases check_eq_error.1 hcheck with ⟨cause, hcause, rfl⟩ | ⟨actual, cause, hactual, hcause, rfl⟩
    · exact .inl ⟨⟨cause, hcause⟩, rfl⟩
    · exact .inr ⟨⟨actual, hactual⟩, ⟨cause, hcause⟩, rfl⟩
  · rintro (⟨⟨cause, hcause⟩, rfl⟩ | ⟨⟨actual, hactual⟩, ⟨cause, hcause⟩, rfl⟩)
    · exact ⟨_, check_eq_error.2 (.inl ⟨cause, hcause, rfl⟩), rfl⟩
    · exact ⟨_, check_eq_error.2 (.inr ⟨actual, cause, hactual, hcause, rfl⟩), rfl⟩

/-! ## The version in force -/

/-- The host with these settings, whose version has then been set to each of these in turn. -/
def afterVersions (s : Settings) (versions : List String) : Host :=
  versions.foldl withVersion (ofSettings s)

theorem version_foldl_withVersion (h : Host) (versions : List String) :
    (versions.foldl withVersion h).version = versions.getLastD h.version := by
  induction versions generalizing h with
  | nil => rfl
  | cons version rest ih =>
    rw [List.foldl_cons, ih, List.getLastD_cons]
    rfl

theorem version_afterVersions (s : Settings) (versions : List String) :
    (afterVersions s versions).version = versions.getLastD s.version :=
  version_foldl_withVersion _ _

/-- **Both questions have the same answer.**  For the version in force, which is the last that was
set, a refused version of the host takes precedence over a refused requirement; otherwise the
requirement is met by the required version and its upgrades.  What is a fault for `check` is the
fatal error of `require`, which has no other one. -/
theorem check_require_agree (s : Settings) (versions : List String) (requirement : String) :
    let h := afterVersions s versions
    let current := versions.getLastD s.version
    (∀ fault, h.check requirement = .error fault ↔
      (∃ cause, Version.parse current = .error cause ∧
        fault = .invalidVersion .library current cause) ∨
      ∃ actual cause, Version.parse current = .ok actual ∧
        Version.parse requirement = .error cause ∧
        fault = .invalidVersion .required requirement cause) ∧
    (∀ b, h.check requirement = .ok b ↔
      ∃ actual required, Version.parse current = .ok actual ∧
        Version.parse requirement = .ok required ∧
        (b = true ↔ required = actual ∨ Version.Upgrade required actual)) ∧
    (∀ b, h.require requirement = .ok b ↔ h.check requirement = .ok b) ∧
    ∀ halt, h.require requirement = .error halt ↔
      ((∃ cause, Version.parse current = .error cause) ∧
        halt = ⟨some "tangelo.requireCompatibleVersion()",
          "tangelo version number is invalid: " ++ current⟩) ∨
      ((∃ actual, Version.parse current = .ok actual) ∧
        (∃ cause, Version.parse requirement = .error cause) ∧
        halt = ⟨some "tangelo.requireCompatibleVersion()",
          "invalid version string: " ++ requirement⟩) := by
  intro h current
  have hversion : h.version = current := version_afterVersions s versions
  rw [← hversion]
  refine ⟨fun fault => check_eq_error, fun b => ?_, fun b => require_eq_ok,
    fun halt => require_eq_error⟩
  rw [check_eq_ok]
  have hverdict : ∀ actual required : Version, actual.satisfies required = b ↔
      (b = true ↔ required = actual ∨ Version.Upgrade required actual) := by
    intro actual required
    rw [← Version.satisfies_iff, eq_comm, Bool.eq_iff_iff]
  simp only [hverdict]

end PluginKit.Host
