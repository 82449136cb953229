import PluginKit.Proofs.Outcome
import PluginKit.Proofs.Text.Numeral
import PluginKit.Proofs.Text.Split
import PluginKit.Version.Parser

/-!
# The grammar of versions

    VERSION ::= BODY | BODY '-' TAG
    BODY    ::= PIECE ('.' PIECE)*

A piece is a numeral below `Version.limit`; there are at most as many as the value of the first
admits.  A tag is not empty and has neither a space nor a hyphen in it.  Reading a text succeeds
exactly for the texts of this grammar, and gives the values of the pieces with zeros behind them:

    parse raw = .ok v ↔ ∃ pieces tag, Derives raw.toList pieces tag ∧ v = ofPieces pieces tag
                                                                              (parse_eq_ok_iff)
-/

namespace PluginKit.Version

open Outcome

/-! ## Texts and their parts -/

/-- What may stand between two points. -/
structure IsPiece (piece : List Char) : Prop where
  isNumeral : Numeral.IsNumeral piece
  lt_limit : Numeral.value piece < limit

/-- The pieces of a body. -/
structure IsBody (pieces : List (List Char)) : Prop where
  ne_nil : pieces ≠ []
  isPiece : ∀ piece ∈ pieces, IsPiece piece
  length_le : pieces.length ≤ arity (Numeral.value (pieces.headD []))

/-- What may stand behind the hyphen. -/
structure IsTag (tag : List Char) : Prop where
  ne_nil : tag ≠ []
  space_not_mem : ' ' ∉ tag
  hyphen_not_mem : '-' ∉ tag

instance (piece : List Char) : Decidable (IsPiece piece) :=
  decidable_of_iff (Numeral.IsNumeral piece ∧ Numeral.value piece < limit)
    ⟨fun h => ⟨h.1, h.2⟩, fun h => ⟨h.isNumeral, h.lt_limit⟩⟩

instance (pieces : List (List Char)) : Decidable (IsBody pieces) :=
  decidable_of_iff
    (pieces ≠ [] ∧ (∀ piece ∈ pieces, IsPiece piece) ∧
      pieces.length ≤ arity (Numeral.value (pieces.headD [])))
    ⟨fun h => ⟨h.1, h.2.1, h.2.2⟩, fun h => ⟨h.ne_nil, h.isPiece, h.length_le⟩⟩

instance (tag : List Char) : Decidable (IsTag tag) :=
  decidable_of_iff (tag ≠ [] ∧ ' ' ∉ tag ∧ '-' ∉ tag)
    ⟨fun h => ⟨h.1, h.2.1, h.2.2⟩, fun h => ⟨h.ne_nil, h.space_not_mem, h.hyphen_not_mem⟩⟩

/-- The texts of the grammar, each with its pieces and its tag. -/
inductive Derives : List Char → List (List Char) → Option (List Char) → Prop
  | body {pieces : List (List Char)} (h : IsBody pieces) :
      Derives (['.'].intercalate pieces) pieces none
  | tagged {pieces : List (List Char)} {tag : List Char} (h : IsBody pieces) (htag : IsTag tag) :
      Derives (['.'].intercalate pieces ++ '-' :: tag) pieces (some tag)

/-- The version with these pieces and this tag; zeros stand for the pieces that are missing. -/
def ofPieces (pieces : List (List Char)) (tag : Option (List Char)) : Version where
  components :=
    (pieces.map Numeral.value).rightpad (arity (Numeral.value (pieces.headD []))) 0
  tag := tag.map String.ofList

variable {raw body : List Char} {pieces : List (List Char)} {tag : Option (List Char)} {v : Version}

/-! ## Tag and body -/

theorem isTag_iff {tag : List Char} : isTag tag = true ↔ IsTag tag := by
  unfold isTag
  constructor
  · intro h
    simp only [Bool.and_eq_true, Bool.not_eq_true', List.isEmpty_eq_false_iff,
      List.contains_eq_mem, decide_eq_false_iff_not] at h
    exact ⟨h.1.1, h.1.2, h.2⟩
  · rintro ⟨hne, hspace, hhyphen⟩
    simp [hne, hspace, hhyphen]

theorem cutTag_body (h : '-' ∉ body) : cutTag body = (body, none) := by
  rw [cutTag, Cut.last?_eq_none h]

theorem cutTag_tagged (body : List Char) {tag : List Char} (h : '-' ∉ tag) :
    cutTag (body ++ '-' :: tag) = (body, some tag) := by
  rw [cutTag, Cut.last?_append body h]

/-- The text is its body, or its body and its tag with the last hyphen between them. -/
theorem eq_of_cutTag (h : cutTag raw = (body, tag)) :
    (tag = none ∧ raw = body ∧ '-' ∉ body) ∨
      ∃ t, tag = some t ∧ raw = body ++ '-' :: t ∧ '-' ∉ t := by
  unfold cutTag at h
  split at h
  · next first second hcut =>
    cases h
    exact .inr ⟨second, rfl, Cut.eq_append_of_last?_eq_some hcut⟩
  · next hcut =>
    cases h
    exact .inl ⟨rfl, rfl, Cut.not_mem_of_last?_eq_none hcut⟩

theorem checkBody_eq_ok : checkBody body = .ok () ↔ body ≠ [] := by
  cases body <;> simp [checkBody]

theorem checkTag_eq_ok :
    checkTag tag = .ok () ↔ ∀ t ∈ tag, t ≠ [] ∧ ' ' ∉ t := by
  cases tag with
  | none => simp [checkTag]
  | some tag =>
    by_cases hnil : tag = [] <;> by_cases hspace : ' ' ∈ tag <;> simp [checkTag, hnil, hspace]

/-! ## Pieces -/

theorem readComponent_eq_ok {piece : List Char} {n : Nat} :
    readComponent piece = .ok n ↔ IsPiece piece ∧ n = Numeral.value piece := by
  unfold readComponent
  constructor
  · intro h
    split at h
    · next m hread =>
      obtain ⟨hnum, rfl⟩ := Numeral.read?_eq_some_iff.1 hread
      split at h
      · next hlt =>
        cases h
        exact ⟨⟨hnum, hlt⟩, rfl⟩
      · cases h
    · cases h
  · rintro ⟨⟨hnum, hlt⟩, rfl⟩
    rw [Numeral.read?_eq_some_iff.2 ⟨hnum, rfl⟩]
    exact if_pos hlt

theorem readComponents_eq_ok {components : List Nat} :
    pieces.mapM readComponent = .ok components ↔
      (∀ piece ∈ pieces, IsPiece piece) ∧ components = pieces.map Numeral.value := by
  have hread : (fun piece n => readComponent piece = .ok n) =
      fun piece n => IsPiece piece ∧ Numeral.value piece = n := by
    funext piece n
    rw [readComponent_eq_ok, eq_comm (a := n)]
  rw [mapM_eq_ok, hread, List.forall₂_and_left, ← List.forall₂_map_left_iff (f := Numeral.value),
    List.forall₂_eq_eq_eq, eq_comm (a := components)]

theorem headD_map_value (pieces : List (List Char)) :
    (pieces.map Numeral.value).headD 0 = Numeral.value (pieces.headD []) := by
  cases pieces <;> rfl

theorem checkCount_eq_ok :
    checkCount (pieces.map Numeral.value) = .ok () ↔
      pieces.length ≤ arity (Numeral.value (pieces.headD [])) := by
  unfold checkCount
  simp only [headD_map_value, List.length_map]
  constructor
  · intro h
    split at h
    · cases h
    · next hle => exact Nat.not_lt.1 hle
  · intro h
    exact if_neg (Nat.not_lt.2 h)

theorem pad_map_value (pieces : List (List Char)) :
    pad (pieces.map Numeral.value) =
      (pieces.map Numeral.value).rightpad (arity (Numeral.value (pieces.headD []))) 0 := by
  unfold pad
  rw [headD_map_value]
  rfl

/-- Neither a hyphen nor a point stands in a piece. -/
theorem IsPiece.not_mem {piece : List Char} (h : IsPiece piece) : '-' ∉ piece ∧ '.' ∉ piece :=
  ⟨h.isNumeral.not_mem (by decide), h.isNumeral.not_mem (by decide)⟩

theorem splitOn_intercalate (h : IsBody pieces) :
    (['.'].intercalate pieces).splitOn '.' = pieces :=
  List.splitOn_intercalate '.' (fun piece hmem => (h.isPiece piece hmem).not_mem.2) h.ne_nil

theorem hyphen_not_mem_body (h : IsBody pieces) : '-' ∉ ['.'].intercalate pieces := by
  intro hmem
  rcases Split.mem_intercalate hmem with hpoint | ⟨piece, hpiece, hmem⟩
  · simp at hpoint
  · exact (h.isPiece piece hpiece).not_mem.1 hmem

/-! ## Whole texts -/

/-- What reading asks for behind the cut. -/
theorem ofChars_of_cutTag (hcut : cutTag raw = (body, tag)) :
    ofChars raw = .ok v ↔
      (∀ t ∈ tag, t ≠ [] ∧ ' ' ∉ t) ∧ IsBody (body.splitOn '.') ∧
        v = ofPieces (body.splitOn '.') tag := by
  unfold ofChars
  simp only [hcut]
  rw [check_bind_eq_ok, checkBody_eq_ok, check_bind_eq_ok, checkTag_eq_ok, bind_eq_ok]
  constructor
  · rintro ⟨-, htag, components, hread, h⟩
    obtain ⟨hpieces, rfl⟩ := readComponents_eq_ok.1 hread
    rw [check_bind_eq_ok, checkCount_eq_ok, pad_map_value] at h
    obtain ⟨hcount, h⟩ := h
    cases h
    exact ⟨htag, ⟨List.splitOn_ne_nil _ _, hpieces, hcount⟩, rfl⟩
  · rintro ⟨htag, hbody, rfl⟩
    refine ⟨?_, htag, _, readComponents_eq_ok.2 ⟨hbody.isPiece, rfl⟩, ?_⟩
    · rintro rfl
      exact (hbody.isPiece [] (by simp)).isNumeral.ne_nil rfl
    · rw [check_bind_eq_ok, checkCount_eq_ok, pad_map_value]
      exact ⟨hbody.length_le, rfl⟩

theorem ofChars_of_derives (h : Derives raw pieces tag) :
    ofChars raw = .ok (ofPieces pieces tag) := by
  cases h with
  | body hbody =>
    rw [ofChars_of_cutTag (cutTag_body (hyphen_not_mem_body hbody)), splitOn_intercalate hbody]
    exact ⟨by simp, hbody, rfl⟩
  | tagged hbody htag =>
    rw [ofChars_of_cutTag (cutTag_tagged _ htag.hyphen_not_mem), splitOn_intercalate hbody]
    refine ⟨?_, hbody, rfl⟩
    rintro t ⟨⟩
    exact ⟨htag.ne_nil, htag.space_not_mem⟩

theorem derives_of_ofChars (h : ofChars raw = .ok v) :
    ∃ pieces tag, Derives raw pieces tag ∧ v = ofPieces pieces tag := by
  cases hcut : cutTag raw with
  | mk body tag =>
    obtain ⟨htag, hbody, hv⟩ := (ofChars_of_cutTag hcut).1 h
    have hjoin : ['.'].intercalate (body.splitOn '.') = body := List.intercalate_splitOn '.'
    refine ⟨body.splitOn '.', tag, ?_, hv⟩
    rcases eq_of_cutTag hcut with ⟨rfl, rfl, -⟩ | ⟨t, rfl, rfl, hhyphen⟩
    · have hder := Derives.body hbody
      rwa [hjoin] at hder
    · obtain ⟨hne, hspace⟩ := htag t rfl
      have hder := Derives.tagged hbody ⟨hne, hspace, hhyphen⟩
      rwa [hjoin] at hder

theorem parse_eq_ok {raw : String} : parse raw = .ok v ↔ ofChars raw.toList = .ok v :=
  mapError_eq_ok

theorem parse_eq_ok_iff {raw : String} :
    parse raw = .ok v ↔
      ∃ pieces tag, Derives raw.toList pieces tag ∧ v = ofPieces pieces tag := by
  rw [parse_eq_ok]
  constructor
  · exact derives_of_ofChars
  · rintro ⟨pieces, tag, hder, rfl⟩
    exact ofChars_of_derives hder

/-- **Reading accepts exactly the grammar**, and gives the values of the pieces, filled with zeros,
and the tag. -/
theorem exists_parse_iff_derives (raw : String) :
    ((∃ v, parse raw = .ok v) ↔ ∃ pieces tag, Derives raw.toList pieces tag) ∧
      ∀ pieces tag, Derives raw.toList pieces tag → parse raw = .ok (ofPieces pieces tag) := by
  have hread : ∀ pieces tag, Derives raw.toList pieces tag →
      parse raw = .ok (ofPieces pieces tag) := fun pieces tag hder =>
    parse_eq_ok_iff.2 ⟨pieces, tag, hder, rfl⟩
  refine ⟨⟨?_, ?_⟩, hread⟩
  · rintro ⟨v, h⟩
    obtain ⟨pieces, tag, hder, -⟩ := parse_eq_ok_iff.1 h
    exact ⟨pieces, tag, hder⟩
  · rintro ⟨pieces, tag, hder⟩
    exact ⟨_, hread pieces tag hder⟩

/-- Leading zeros in both pieces, a patch level that is missing, a point in the tag. -/
theorem parse_zeros_and_tag :
    Derives "007.010-a.b".toList ["007".toList, "010".toList] (some "a.b".toList) ∧
      parse "007.010-a.b" = .ok { components := [7, 10, 0], tag := some "a.b" } := by
  have hbody : IsBody ["007".toList, "010".toList] := by decide
  have htag : IsTag "a.b".toList := by decide
  have hder : Derives "007.010-a.b".toList _ _ := .tagged hbody htag
  exact ⟨hder, (exists_parse_iff_derives "007.010-a.b").2 _ _ hder⟩

end PluginKit.Version
