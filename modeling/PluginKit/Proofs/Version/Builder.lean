import PluginKit.Proofs.Version.Canonical

/-!
# Building versions from parts

A version that is built from numbers and then given a tag is the version that is read from the text
with these parts, and a tag is refused on both ways or on neither:

    major ≠ 0 → parse s!"{major}.{minor}.{patch}" = .ok (ofParts major minor patch)
                                                                         (parse_parts_of_ne_zero)
    v.withTag tag = .ok w ↔ parse (v.body ++ "-" ++ tag) = .ok w         (withTag_eq_ok_iff_parse)

Reading does not look for hyphens in a tag, since it cuts at the last one: a tag with a hyphen leaves
the hyphen before it to the body, where none may stand (`Derives.of_hyphen`).
-/

namespace PluginKit.Version

variable {v w : Version} {pieces : List (List Char)} {tag : Option (List Char)}

/-! ## Numbers -/

/-- The components with points between them, as a text. -/
def body (v : Version) : String :=
  ".".intercalate (v.components.map toString)

theorem toList_body (v : Version) : v.body.toList = v.bodyText := by
  have hwrite : (v.components.map toString).map String.toList = v.components.map Numeral.write := by
    rw [List.map_map]
    exact List.map_congr_left fun _ _ => String.toList_ofList
  unfold body bodyText
  rw [String.toList_intercalate, hwrite]
  rfl

theorem render_of_untagged (h : v.tag = none) : v.render = v.body := by
  have hchars : v.toChars = v.bodyText := by
    unfold toChars
    rw [h]
  rw [render, hchars, ← toList_body, String.ofList_toList]

theorem render_of_tagged {tag : String} (h : v.tag = some tag) :
    v.render = v.body ++ "-" ++ tag := by
  have hchars : v.toChars = v.bodyText ++ '-' :: tag.toList := by
    unfold toChars
    rw [h]
  refine String.toList_injective ?_
  rw [render, hchars, String.toList_ofList, String.toList_append, String.toList_append, toList_body,
    List.append_assoc]
  rfl

theorem components_ofParts_of_ne_zero {major : UInt64} (h : major ≠ 0) (minor patch : UInt64) :
    (ofParts major minor patch).components = [major.toNat, minor.toNat, patch.toNat] := by
  have harity : arity major.toNat = 3 := if_neg fun hzero => h (UInt64.toNat_inj.1 hzero)
  unfold ofParts
  rw [harity]
  rfl

theorem parse_parts_of_ne_zero {major : UInt64} (h : major ≠ 0) (minor patch : UInt64) :
    parse s!"{major}.{minor}.{patch}" = .ok (ofParts major minor patch) := by
  have hbody : (ofParts major minor patch).body = s!"{major}.{minor}.{patch}" := by
    unfold body
    rw [components_ofParts_of_ne_zero h]
    rfl
  rw [← hbody, ← render_of_untagged rfl]
  exact parse_render (normal_ofParts major minor patch)

/-- Without a major number the patch level is not written. -/
theorem parse_parts_zero (minor patch : UInt64) :
    parse s!"0.{minor}" = .ok (ofParts 0 minor patch) := by
  have hbody : (ofParts 0 minor patch).body = s!"0.{minor}" := rfl
  rw [← hbody, ← render_of_untagged rfl]
  exact parse_render (normal_ofParts 0 minor patch)

/-! ## One tag -/

theorem withTag_eq_ok_iff {tag : String} :
    v.withTag tag = .ok w ↔ IsTag tag.toList ∧ w = { v with tag := some tag } := by
  unfold withTag
  rw [← isTag_iff]
  constructor
  · intro h
    split at h
    · next htag =>
      cases h
      exact ⟨htag, rfl⟩
    · cases h
  · rintro ⟨htag, rfl⟩
    exact if_pos htag

theorem withTag_of_not_isTag {tag : String} (h : ¬ IsTag tag.toList) :
    v.withTag tag = .error ⟨v.render ++ "-" ++ tag, .badTag tag⟩ :=
  if_neg (mt isTag_iff.1 h)

/-- The one hyphen of a text of the grammar is the one before its tag. -/
theorem Derives.of_hyphen {before after : List Char}
    (h : Derives (before ++ '-' :: after) pieces tag) :
    IsTag after ∧ tag = some after ∧ before = ['.'].intercalate pieces := by
  generalize htext : before ++ '-' :: after = text at h
  cases h with
  | body hbody =>
    refine absurd ?_ (hyphen_not_mem_body hbody)
    rw [← htext]
    exact List.mem_append_right _ List.mem_cons_self
  | tagged hbody htag =>
    obtain ⟨hbefore, -, hafter⟩ := (List.append_cons_inj_of_notMem (hyphen_not_mem_body hbody)
      htag.hyphen_not_mem).1 htext.symm
    subst hafter
    exact ⟨htag, rfl, hbefore.symm⟩

theorem isTag_of_parse {before tag : String} (h : parse (before ++ "-" ++ tag) = .ok w) :
    IsTag tag.toList := by
  obtain ⟨pieces, text, hder, -⟩ := parse_eq_ok_iff.1 h
  rw [String.toList_append, String.toList_append, List.append_assoc] at hder
  exact hder.of_hyphen.1

/-- Setting a tag and reading the components with this tag behind them is the same. -/
theorem withTag_eq_ok_iff_parse (hv : Normal v) {tag : String} :
    v.withTag tag = .ok w ↔ parse (v.body ++ "-" ++ tag) = .ok w := by
  have hread : ∀ u, v.withTag tag = .ok u → parse (v.body ++ "-" ++ tag) = .ok u := by
    intro u hu
    have hnormal := normal_withTag hv hu
    obtain ⟨-, rfl⟩ := withTag_eq_ok_iff.1 hu
    have hrender := parse_render hnormal
    rwa [render_of_tagged rfl] at hrender
  constructor
  · exact hread w
  · intro h
    have htag : v.withTag tag = .ok { v with tag := some tag } :=
      withTag_eq_ok_iff.2 ⟨isTag_of_parse h, rfl⟩
    rw [htag, ← hread _ htag, h]

/-- A tag is set, or it is refused with a text that is no version. -/
theorem withTag_ok_or_error (v : Version) (tag : String) :
    (∃ w, v.withTag tag = .ok w) ∨
      ∃ input, v.withTag tag = .error ⟨input, .badTag tag⟩ ∧ ∃ e, parse input = .error e := by
  by_cases htag : IsTag tag.toList
  · exact .inl ⟨_, withTag_eq_ok_iff.2 ⟨htag, rfl⟩⟩
  · refine .inr ⟨_, withTag_of_not_isTag htag, ?_⟩
    cases hparse : parse (v.render ++ "-" ++ tag) with
    | ok w => exact absurd (isTag_of_parse hparse) htag
    | error e => exact ⟨e, rfl⟩

/-! ## Tags in turn -/

/-- The version with this tag, or as it is if the tag is refused. -/
def retag (v : Version) (tag : String) : Version :=
  match v.withTag tag with
  | .ok w => w
  | .error _ => v

theorem retag_of_isTag {tag : String} (h : IsTag tag.toList) :
    v.retag tag = { v with tag := some tag } := by
  unfold retag
  rw [withTag_eq_ok_iff.2 ⟨h, rfl⟩]

theorem retag_of_not_isTag {tag : String} (h : ¬ IsTag tag.toList) : v.retag tag = v := by
  unfold retag
  rw [withTag_of_not_isTag h]

/-- The last tag that may stand in a version. -/
def lastTag? (tags : List String) : Option String :=
  (tags.filter fun tag => IsTag tag.toList).getLast?

/-- Of several tags the last that is not refused stays, and the components stay as they are. -/
theorem foldl_retag (v : Version) (tags : List String) :
    tags.foldl retag v = { v with tag := (lastTag? tags).or v.tag } := by
  unfold lastTag?
  induction tags generalizing v with
  | nil => rfl
  | cons tag rest ih =>
    rw [List.foldl_cons, ih, List.filter_cons]
    by_cases htag : IsTag tag.toList
    · rw [retag_of_isTag htag, if_pos (decide_eq_true htag), List.getLast?_cons]
      cases (rest.filter fun tag => IsTag tag.toList).getLast? <;> rfl
    · rw [retag_of_not_isTag htag, if_neg (mt of_decide_eq_true htag)]

/-! ## Building again -/

/-- Each number of a version fits into 64 bits, also one that stands for a missing component. -/
theorem Normal.exists_toNat_eq (h : Normal v) (i : Nat) :
    ∃ n : UInt64, n.toNat = v.components.getD i 0 := by
  have hlt : v.components.getD i 0 < UInt64.size := by
    rw [List.getD_eq_getElem?_getD]
    cases hget : v.components[i]? with
    | none => decide
    | some c => exact h.lt_limit c (List.mem_of_getElem? hget)
  exact ⟨.ofNatLT _ hlt, UInt64.toNat_ofNatLT⟩

/-- A version is built again from its numbers and its tag. -/
theorem Normal.exists_ofParts (h : Normal v) :
    ∃ major minor patch : UInt64,
      major.toNat = v.major ∧ minor.toNat = v.minor ∧ patch.toNat = v.patch ∧
        ofParts major minor patch = { v with tag := none } := by
  obtain ⟨major, hmajor⟩ := h.exists_toNat_eq 0
  obtain ⟨minor, hminor⟩ := h.exists_toNat_eq 1
  obtain ⟨patch, hpatch⟩ := h.exists_toNat_eq 2
  refine ⟨major, minor, patch, hmajor, hminor, hpatch, ?_⟩
  unfold ofParts
  rw [hmajor, hminor, hpatch]
  exact congrArg (Version.mk · none) h.components_eq_take.symm

/-! ## Building and reading -/

/-- **Building a version agrees with reading it**, from numbers and, one after the other, with tags.
Of several tags the last that can be read stays; what is read can be built. -/
theorem building_agrees_with_reading :
    (∀ major minor patch : UInt64,
      (major ≠ 0 → parse s!"{major}.{minor}.{patch}" = .ok (ofParts major minor patch)) ∧
      (major = 0 → parse s!"0.{minor}" = .ok (ofParts major minor patch))) ∧
    (∀ v, Reachable v → ∀ tag,
      (∀ w, v.withTag tag = .ok w ↔ parse (v.body ++ "-" ++ tag) = .ok w) ∧
      ((∃ w, v.withTag tag = .ok w) ∨
        ∃ input, v.withTag tag = .error ⟨input, .badTag tag⟩ ∧ ∃ e, parse input = .error e)) ∧
    (∀ (v : Version) (tags : List String),
      tags.foldl retag v = { v with tag := (lastTag? tags).or v.tag }) ∧
    ∀ raw v, parse raw = .ok v → ∃ major minor patch : UInt64,
      major.toNat = v.major ∧ minor.toNat = v.minor ∧ patch.toNat = v.patch ∧
        (v.tag = none → ofParts major minor patch = v) ∧
        ∀ tag, v.tag = some tag → (ofParts major minor patch).withTag tag = .ok v := by
  refine ⟨fun major minor patch => ⟨fun h => parse_parts_of_ne_zero h minor patch, ?_⟩, ?_,
    foldl_retag, ?_⟩
  · rintro rfl
    exact parse_parts_zero minor patch
  · intro v hv tag
    exact ⟨fun w => withTag_eq_ok_iff_parse hv.normal, withTag_ok_or_error v tag⟩
  · intro raw v hparse
    have hnormal := normal_of_parse hparse
    obtain ⟨major, minor, patch, hmajor, hminor, hpatch, hparts⟩ := hnormal.exists_ofParts
    refine ⟨major, minor, patch, hmajor, hminor, hpatch, ?_, ?_⟩
    · intro hnone
      rw [hparts, ← hnone]
    · intro tag htag
      rw [hparts, withTag_eq_ok_iff, ← htag]
      exact ⟨isTag_iff.1 (hnormal.isTag_of_mem tag htag), rfl⟩

/-- A version with a tag is given tags that are refused for a space and for a hyphen, a good one and
an empty one; and it is read and built again. -/
theorem retag_candidate :
    parse "2.1-rc.1" = .ok { components := [2, 1, 0], tag := some "rc.1" } ∧
      ["a b", "β\t1", "x-y", ""].foldl retag { components := [2, 1, 0], tag := some "rc.1" } =
        { components := [2, 1, 0], tag := some "β\t1" } ∧
      parse "2.1.0-β\t1" = .ok { components := [2, 1, 0], tag := some "β\t1" } ∧
      (∃ e, parse "2.1.0-rc.1-x-y" = .error e) ∧
      (ofParts 2 1 0).withTag "rc.1" = .ok { components := [2, 1, 0], tag := some "rc.1" } := by
  obtain ⟨-, htag, htags, hbuild⟩ := building_agrees_with_reading
  have hread : parse "2.1-rc.1" = .ok { components := [2, 1, 0], tag := some "rc.1" } := rfl
  obtain ⟨hgood, -⟩ := htag _ (.parse hread) "β\t1"
  obtain ⟨-, ⟨w, hw⟩ | ⟨input, hinput, hrefused⟩⟩ := htag _ (.parse hread) "x-y"
  · cases hw
  obtain ⟨major, minor, patch, hmajor, hminor, hpatch, -, hrebuilt⟩ := hbuild _ _ hread
  obtain rfl : major = 2 := UInt64.toNat_inj.1 hmajor
  obtain rfl : minor = 1 := UInt64.toNat_inj.1 hminor
  obtain rfl : patch = 0 := UInt64.toNat_inj.1 hpatch
  obtain rfl : "2.1.0-rc.1-x-y" = input := by
    cases hinput
    rfl
  exact ⟨hread, htags _ _, (hgood _).1 rfl, hrefused, hrebuilt _ rfl⟩

end PluginKit.Version
