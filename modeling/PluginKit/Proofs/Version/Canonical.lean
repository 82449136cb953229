import Mathlib.Data.Set.Function
import PluginKit.Proofs.Version.Grammar
import PluginKit.Version.Json

/-!
# Normal forms and canonical texts

Every version that the library hands out is in normal form (`Reachable.normal`), and reading what is
written for a version in normal form gives that version back:

    Normal v → parse v.render = .ok v                             (parse_render)

What is written is a canonical text: one of the grammar with all the components that the first of
them asks for and without superfluous zeros.  Each canonical text is written for the version that it
is read as (`render_of_canonical`).
-/

namespace PluginKit.Version

/-! ## Definitions -/

/-- The versions that come from reading a text or a JSON value, from giving the parts as numbers,
and from setting a tag. -/
inductive Reachable : Version → Prop
  | parse {raw : String} {v : Version} (h : Version.parse raw = .ok v) : Reachable v
  | ofJson {value : Json} {v : Version} (h : Version.ofJson value = .ok v) : Reachable v
  | ofParts (major minor patch : UInt64) : Reachable (Version.ofParts major minor patch)
  | withTag {v w : Version} {tag : String} (hv : Reachable v) (h : v.withTag tag = .ok w) :
      Reachable w

/-- The texts of the grammar with as many pieces as the first one asks for, none of them with
superfluous zeros. -/
def Canonical (raw : String) : Prop :=
  ∃ pieces tag, Derives raw.toList pieces tag ∧ (∀ piece ∈ pieces, Numeral.IsShort piece) ∧
    pieces.length = arity (Numeral.value (pieces.headD []))

variable {raw : String} {pieces : List (List Char)} {tag : Option (List Char)} {v w : Version}

/-! ## Normal form -/

theorem Derives.isBody {text : List Char} (h : Derives text pieces tag) : IsBody pieces := by
  cases h <;> assumption

theorem Derives.isTag {text : List Char} (h : Derives text pieces tag) : ∀ t ∈ tag, IsTag t := by
  cases h with
  | body _ => simp
  | tagged _ htag => rintro t ⟨⟩; exact htag

theorem major_ofPieces (tag : Option (List Char)) (h : pieces ≠ []) :
    (ofPieces pieces tag).major = Numeral.value (pieces.headD []) := by
  cases pieces with
  | nil => exact absurd rfl h
  | cons piece rest => rfl

theorem normal_ofPieces (h : IsBody pieces) (htag : ∀ t ∈ tag, IsTag t) :
    Normal (ofPieces pieces tag) where
  length_components := by
    rw [major_ofPieces tag h.ne_nil]
    show ((pieces.map Numeral.value).rightpad _ 0).length = _
    rw [List.length_rightpad, List.length_map]
    exact Nat.max_eq_left h.length_le
  lt_limit := by
    intro c hc
    rcases List.mem_append.1 hc with hc | hc
    · obtain ⟨piece, hmem, rfl⟩ := List.mem_map.1 hc
      exact (h.isPiece piece hmem).lt_limit
    · rw [List.eq_of_mem_replicate hc]
      decide
  isTag_of_mem := by
    intro t ht
    obtain ⟨text, htext, rfl⟩ := Option.map_eq_some_iff.1 ht
    rw [String.toList_ofList]
    exact isTag_iff.2 (htag text htext)

theorem normal_of_parse (h : parse raw = .ok v) : Normal v := by
  obtain ⟨pieces, tag, hder, rfl⟩ := parse_eq_ok_iff.1 h
  exact normal_ofPieces hder.isBody hder.isTag

theorem normal_of_ofJson {value : Json} (h : ofJson value = .ok v) : Normal v := by
  cases value with
  | str text => exact normal_of_parse (Outcome.mapError_eq_ok.1 h)
  | _ => cases h

theorem normal_ofParts (major minor patch : UInt64) : Normal (ofParts major minor patch) := by
  have hlt : ∀ c ∈ [major.toNat, minor.toNat, patch.toNat], c < limit := by
    simp [limit, UInt64.toNat_lt_size]
  have hmajor : (ofParts major minor patch).major = major.toNat := by
    unfold ofParts arity
    split <;> rfl
  refine ⟨?_, fun c hc => hlt c (List.mem_of_mem_take hc), by rintro t ⟨⟩⟩
  rw [hmajor]
  unfold ofParts arity
  split <;> rfl

theorem normal_withTag {text : String} (hv : Normal v) (h : v.withTag text = .ok w) :
    Normal w := by
  unfold withTag at h
  split at h
  · next htag =>
    cases h
    exact ⟨hv.length_components, hv.lt_limit, by rintro t ⟨⟩; exact htag⟩
  · cases h

/-- The normal form is kept by every way to a version. -/
theorem Reachable.normal (h : Reachable v) : Normal v := by
  induction h with
  | parse h => exact normal_of_parse h
  | ofJson h => exact normal_of_ofJson h
  | ofParts major minor patch => exact normal_ofParts major minor patch
  | withTag _ h ih => exact normal_withTag ih h

/-- The components of a version in normal form are its three numbers, or the first two of them. -/
theorem Normal.components_eq_take (h : Normal v) :
    v.components = [v.major, v.minor, v.patch].take (arity v.major) := by
  have hle : v.components.length ≤ 3 := by
    rw [h.length_components]
    unfold arity
    split <;> decide
  rw [← h.length_components]
  unfold major minor patch
  generalize v.components = components at hle
  match components, hle with
  | [], _ | [_], _ | [_, _], _ | [_, _, _], _ => rfl

/-! ## Writing and reading -/

theorem Normal.components_ne_nil (h : Normal v) : v.components ≠ [] := by
  intro hnil
  have hlen := h.length_components
  rw [hnil] at hlen
  unfold arity at hlen
  split at hlen <;> simp at hlen

theorem Normal.value_headD (h : Normal v) :
    Numeral.value ((v.components.map Numeral.write).headD []) = v.major := by
  have hne := h.components_ne_nil
  unfold major
  cases hc : v.components with
  | nil => exact absurd hc hne
  | cons c rest => exact Numeral.value_write c

/-- A version in normal form is written with all its pieces. -/
theorem Normal.length_pieces (h : Normal v) :
    (v.components.map Numeral.write).length =
      arity (Numeral.value ((v.components.map Numeral.write).headD [])) := by
  rw [h.value_headD, List.length_map, h.length_components]

theorem Normal.isBody (h : Normal v) : IsBody (v.components.map Numeral.write) where
  ne_nil := by simpa using h.components_ne_nil
  isPiece := by
    intro piece hmem
    obtain ⟨c, hc, rfl⟩ := List.mem_map.1 hmem
    exact ⟨Numeral.isNumeral_write c, by rw [Numeral.value_write]; exact h.lt_limit c hc⟩
  length_le := Nat.le_of_eq h.length_pieces

/-- What is written for a version in normal form is a text of the grammar. -/
theorem Normal.derives (h : Normal v) :
    Derives v.render.toList (v.components.map Numeral.write) (v.tag.map String.toList) := by
  rw [render, String.toList_ofList]
  unfold toChars
  cases htag : v.tag with
  | none => exact .body h.isBody
  | some tag => exact .tagged h.isBody (isTag_iff.1 (h.isTag_of_mem tag htag))

/-- No zeros are filled in where all components are given. -/
theorem components_ofPieces (tag : Option (List Char))
    (h : pieces.length = arity (Numeral.value (pieces.headD []))) :
    (ofPieces pieces tag).components = pieces.map Numeral.value := by
  show pieces.map Numeral.value ++ List.replicate _ 0 = _
  rw [List.length_map, ← h, Nat.sub_self, List.replicate_zero, List.append_nil]

theorem Normal.ofPieces_eq (h : Normal v) :
    ofPieces (v.components.map Numeral.write) (v.tag.map String.toList) = v := by
  have hcomponents : (v.components.map Numeral.write).map Numeral.value = v.components := by
    rw [List.map_map]
    exact List.map_id'' Numeral.value_write v.components
  have htag : (v.tag.map String.toList).map String.ofList = v.tag := by
    cases v.tag <;> simp
  have hfull := (components_ofPieces (v.tag.map String.toList) h.length_pieces).trans hcomponents
  cases v
  rw [Version.mk.injEq]
  exact ⟨hfull, htag⟩

/-- **Reading undoes writing** on the versions in normal form. -/
theorem parse_render (h : Normal v) : parse v.render = .ok v :=
  parse_eq_ok_iff.2 ⟨_, _, h.derives, h.ofPieces_eq.symm⟩

theorem canonical_render (h : Normal v) : Canonical v.render := by
  refine ⟨_, _, h.derives, ?_, h.length_pieces⟩
  intro piece hmem
  obtain ⟨c, -, rfl⟩ := List.mem_map.1 hmem
  exact Numeral.isShort_write c

/-- What a canonical text is read as is written as that text. -/
theorem render_of_canonical (h : Canonical raw) : ∃ v, parse raw = .ok v ∧ v.render = raw := by
  obtain ⟨pieces, tag, hder, hshort, hlen⟩ := h
  refine ⟨ofPieces pieces tag, parse_eq_ok_iff.2 ⟨pieces, tag, hder, rfl⟩, ?_⟩
  have hpieces : (pieces.map Numeral.value).map Numeral.write = pieces := by
    rw [List.map_map]
    exact (List.map_congr_left fun piece hmem => Numeral.write_value (hshort piece hmem)).trans
      (List.map_id' pieces)
  have hbody : (ofPieces pieces tag).bodyText = ['.'].intercalate pieces := by
    rw [bodyText, components_ofPieces tag hlen, hpieces]
  have hchars : (ofPieces pieces tag).toChars = raw.toList := by
    -- the index of the derivation has to be a variable
    generalize raw.toList = text at hder
    cases hder with
    | body _ => exact hbody
    | tagged _ _ =>
      show bodyText _ ++ '-' :: (String.ofList _).toList = _
      rw [hbody, String.toList_ofList]
  rw [render, hchars, String.ofList_toList]

/-! ## The canonical texts are the written versions -/

/-- **The versions and the canonical texts correspond to each other.**  Every version is in normal
form and is read back from what is written for it; writing is a bijection onto the canonical texts,
and these are the texts that reading and writing leave as they are. -/
theorem render_bijOn_canonical :
    (∀ v, Reachable v → Normal v ∧ parse v.render = .ok v) ∧
      Set.BijOn render {v | Reachable v} {raw | Canonical raw} ∧
      ∀ raw v, parse raw = .ok v → (v.render = raw ↔ Canonical raw) := by
  refine ⟨fun v h => ⟨h.normal, parse_render h.normal⟩, ⟨?_, ?_, ?_⟩, ?_⟩
  · intro v h
    exact canonical_render (Reachable.normal h)
  · intro v hv w hw (h : v.render = w.render)
    have hread : parse v.render = .ok w := by rw [h, parse_render (Reachable.normal hw)]
    rw [parse_render (Reachable.normal hv)] at hread
    exact Except.ok.inj hread
  · intro raw h
    obtain ⟨v, hparse, hrender⟩ := render_of_canonical h
    exact ⟨v, .parse hparse, hrender⟩
  · intro raw v h
    constructor
    · rintro rfl
      exact canonical_render (normal_of_parse h)
    · intro hcanonical
      obtain ⟨w, hparse, hrender⟩ := render_of_canonical hcanonical
      rw [h] at hparse
      cases hparse
      exact hrender

/-- A version that has been given two tags in turn, and a text that is not canonical. -/
theorem parse_render_second_tag :
    Reachable { components := [0, 7], tag := some "β\t1" } ∧
      parse "0.7-β\t1" = .ok { components := [0, 7], tag := some "β\t1" } ∧
      ¬ Canonical "00.7-β\t1" := by
  have hfirst : (ofParts 0 7 9).withTag "rc.1" =
      .ok { components := [0, 7], tag := some "rc.1" } := rfl
  have hsecond : Version.withTag { components := [0, 7], tag := some "rc.1" } "β\t1" =
      .ok { components := [0, 7], tag := some "β\t1" } := rfl
  have hreach := ((Reachable.ofParts 0 7 9).withTag hfirst).withTag hsecond
  have hzeros : parse "00.7-β\t1" = .ok { components := [0, 7], tag := some "β\t1" } := rfl
  refine ⟨hreach, (render_bijOn_canonical.1 _ hreach).2, fun hcanonical => ?_⟩
  exact absurd ((render_bijOn_canonical.2.2 _ _ hzeros).2 hcanonical) (by decide)

end PluginKit.Version
