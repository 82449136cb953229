import PluginKit.Proofs.Version.Grammar

/-!
# Diagnoses of texts that are no versions

`Diagnosis body tag fault` says of a body and a tag what is wrong with them: of several faults it
names the first, in the order of its constructors, and of several bad pieces the leftmost.  A text is
refused exactly for the diagnosis of what stands before and behind its last hyphen:

    Cuts raw.toList body tag →
      (parse raw = .error e ↔ e.input = raw ∧ Diagnosis body tag e.fault)    (parse_eq_error_iff)
-/

namespace PluginKit.Version

open Outcome

/-! ## Parts of a text -/

/-- What stands before the last hyphen of a text, and what stands behind it if there is one. -/
inductive Cuts : List Char → List Char → Option (List Char) → Prop
  | whole {raw : List Char} (h : '-' ∉ raw) : Cuts raw raw none
  | hyphen {body tag : List Char} (h : '-' ∉ tag) : Cuts (body ++ '-' :: tag) body (some tag)

/-- What stands between the points of a body. -/
structure Pieces (body : List Char) (pieces : List (List Char)) : Prop where
  ne_nil : pieces ≠ []
  point_not_mem : ∀ piece ∈ pieces, '.' ∉ piece
  intercalate_eq : ['.'].intercalate pieces = body

/-- The tag is empty or has a space in it. -/
def IsBadTag (tag : List Char) : Prop :=
  tag = [] ∨ ' ' ∈ tag

/-- The piece is empty, has a character other than a digit, or stands for a number that is too
large. -/
inductive IsBadPiece : List Char → Prop
  | empty : IsBadPiece []
  | stray {piece : List Char} {c : Char} (hmem : c ∈ piece) (h : c.isDigit = false) :
      IsBadPiece piece
  | large {piece : List Char} (hdigits : Numeral.IsNumeral piece)
      (h : limit ≤ Numeral.value piece) : IsBadPiece piece

/-- What is wrong with a body and a tag. -/
inductive Diagnosis (body : List Char) (tag : Option (List Char)) : Fault → Prop
  | noNumber (hbody : body = []) : Diagnosis body tag .noNumber
  | badTag {text : List Char} (hbody : body ≠ []) (htag : tag = some text)
      (hbad : IsBadTag text) : Diagnosis body tag (.badTag (String.ofList text))
  | badComponent {before after : List (List Char)} {piece : List Char} (hbody : body ≠ [])
      (htag : ∀ text ∈ tag, ¬ IsBadTag text) (hpieces : Pieces body (before ++ piece :: after))
      (hbefore : ∀ other ∈ before, ¬ IsBadPiece other) (hbad : IsBadPiece piece) :
      Diagnosis body tag (.badComponent (String.ofList piece))
  | tooManyComponents {first : List Char} {rest : List (List Char)} (hbody : body ≠ [])
      (htag : ∀ text ∈ tag, ¬ IsBadTag text) (hpieces : Pieces body (first :: rest))
      (hgood : ∀ piece ∈ first :: rest, ¬ IsBadPiece piece)
      (hcount : arity (Numeral.value first) < (first :: rest).length) :
      Diagnosis body tag
        (.tooManyComponents (first :: rest).length (arity (Numeral.value first)))

variable {raw body : List Char} {tag : Option (List Char)} {pieces : List (List Char)}
  {fault : Fault}

theorem cuts_iff : Cuts raw body tag ↔ cutTag raw = (body, tag) := by
  constructor
  · intro h
    cases h with
    | whole h => exact cutTag_body h
    | hyphen h => exact cutTag_tagged _ h
  · intro h
    obtain ⟨rfl, rfl, hhyphen⟩ | ⟨text, rfl, rfl, hhyphen⟩ := eq_of_cutTag h
    · exact .whole hhyphen
    · exact .hyphen hhyphen

theorem pieces_iff : Pieces body pieces ↔ pieces = body.splitOn '.' := by
  constructor
  · rintro ⟨hne, hpoint, rfl⟩
    exact (List.splitOn_intercalate '.' hpoint hne).symm
  · rintro rfl
    exact ⟨List.splitOn_ne_nil _ _, fun _ h => Split.not_mem_of_mem_splitOn h,
      List.intercalate_splitOn '.'⟩

/-- A piece is bad exactly if it may not stand between two points. -/
theorem isBadPiece_iff {piece : List Char} : IsBadPiece piece ↔ ¬ IsPiece piece := by
  constructor
  · rintro (_ | ⟨hmem, hc⟩ | ⟨_, hlimit⟩) hpiece
    · exact hpiece.isNumeral.ne_nil rfl
    · exact hpiece.isNumeral.not_mem hc hmem
    · exact Nat.not_lt.2 hlimit hpiece.lt_limit
  · intro hpiece
    by_cases hnil : piece = []
    · subst hnil
      exact .empty
    by_cases hstray : ∃ c ∈ piece, c.isDigit = false
    · obtain ⟨c, hmem, hc⟩ := hstray
      exact .stray hmem hc
    · have hdigits : Numeral.IsNumeral piece :=
        ⟨hnil, fun c hmem => Bool.not_eq_false _ ▸ fun hc => hstray ⟨c, hmem, hc⟩⟩
      exact .large hdigits (Nat.not_lt.1 fun hlt => hpiece ⟨hdigits, hlt⟩)

theorem not_isBadPiece_iff {piece : List Char} : ¬ IsBadPiece piece ↔ IsPiece piece := by
  rw [isBadPiece_iff, not_not]

/-! ## Checks that fail -/

theorem checkBody_eq_error : checkBody body = .error fault ↔ body = [] ∧ fault = .noNumber := by
  cases body <;> simp [checkBody, eq_comm]

theorem isBadTag_iff {text : List Char} : IsBadTag text ↔ ¬ (text ≠ [] ∧ ' ' ∉ text) := by
  unfold IsBadTag
  rw [not_and_or, not_not, not_not]

theorem checkTag_eq_ok_iff_not_isBadTag :
    checkTag tag = .ok () ↔ ∀ text ∈ tag, ¬ IsBadTag text := by
  simp only [checkTag_eq_ok, isBadTag_iff, not_not]

theorem checkTag_eq_error :
    checkTag tag = .error fault ↔
      ∃ text, tag = some text ∧ IsBadTag text ∧ fault = .badTag (String.ofList text) := by
  cases tag with
  | none => simp [checkTag]
  | some text =>
    have hcheck : checkTag (some text) =
        if text.isEmpty || text.contains ' ' then .error (.badTag (String.ofList text))
        else .ok () := rfl
    have hbad : (text.isEmpty || text.contains ' ') = true ↔ IsBadTag text := by
      simp [IsBadTag]
    rw [hcheck]
    constructor
    · intro h
      split at h
      · next ht =>
        cases h
        exact ⟨text, rfl, hbad.1 ht, rfl⟩
      · cases h
    · rintro ⟨_, ⟨⟩, ht, rfl⟩
      exact if_pos (hbad.2 ht)

theorem readComponent_eq_error {piece : List Char} :
    readComponent piece = .error fault ↔
      IsBadPiece piece ∧ fault = .badComponent (String.ofList piece) := by
  have hfault : ∀ fault, readComponent piece = .error fault →
      fault = .badComponent (String.ofList piece) := by
    intro fault h
    unfold readComponent at h
    split at h
    · split at h <;> cases h
      rfl
    · cases h
      rfl
  rw [isBadPiece_iff]
  constructor
  · intro h
    refine ⟨fun hpiece => ?_, hfault fault h⟩
    rw [readComponent_eq_ok.2 ⟨hpiece, rfl⟩] at h
    cases h
  · rintro ⟨hpiece, rfl⟩
    cases hread : readComponent piece with
    | ok n => exact absurd (readComponent_eq_ok.1 hread).1 hpiece
    | error fault => rw [hfault fault hread]

theorem exists_readComponent_eq_ok {piece : List Char} :
    (∃ n, readComponent piece = .ok n) ↔ ¬ IsBadPiece piece := by
  simp only [readComponent_eq_ok, not_isBadPiece_iff, exists_and_left, exists_eq, and_true]

/-- Reading the pieces fails at the leftmost bad one. -/
theorem readComponents_eq_error :
    pieces.mapM readComponent = .error fault ↔
      ∃ before piece after, pieces = before ++ piece :: after ∧
        (∀ other ∈ before, ¬ IsBadPiece other) ∧ IsBadPiece piece ∧
        fault = .badComponent (String.ofList piece) := by
  simp only [mapM_eq_error, exists_readComponent_eq_ok, readComponent_eq_error]

theorem checkCount_eq_error :
    checkCount (pieces.map Numeral.value) = .error fault ↔
      arity (Numeral.value (pieces.headD [])) < pieces.length ∧
        fault = .tooManyComponents pieces.length (arity (Numeral.value (pieces.headD []))) := by
  unfold checkCount
  simp only [headD_map_value, List.length_map]
  constructor
  · intro h
    split at h
    · next hcount =>
      cases h
      exact ⟨hcount, rfl⟩
    · cases h
  · rintro ⟨hcount, rfl⟩
    exact if_pos hcount

/-! ## Diagnoses -/

theorem ofChars_eq_error (hcut : Cuts raw body tag) :
    ofChars raw = .error fault ↔ Diagnosis body tag fault := by
  unfold ofChars
  simp only [cuts_iff.1 hcut]
  constructor
  · intro h
    rcases check_bind_eq_error.1 h with h | ⟨hbody, h⟩
    · obtain ⟨hbody, rfl⟩ := checkBody_eq_error.1 h
      exact .noNumber hbody
    have hbody := checkBody_eq_ok.1 hbody
    rcases check_bind_eq_error.1 h with h | ⟨htag, h⟩
    · obtain ⟨text, htag, hbad, rfl⟩ := checkTag_eq_error.1 h
      exact .badTag hbody htag hbad
    have htag := checkTag_eq_ok_iff_not_isBadTag.1 htag
    rcases bind_eq_error.1 h with h | ⟨components, hread, h⟩
    · obtain ⟨before, piece, after, hsplit, hbefore, hbad, rfl⟩ := readComponents_eq_error.1 h
      exact .badComponent hbody htag (pieces_iff.2 hsplit.symm) hbefore hbad
    obtain ⟨hgood, rfl⟩ := readComponents_eq_ok.1 hread
    rcases check_bind_eq_error.1 h with h | ⟨-, h⟩
    · obtain ⟨hcount, rfl⟩ := checkCount_eq_error.1 h
      have hpieces := pieces_iff.2 (rfl : body.splitOn '.' = _)
      generalize body.splitOn '.' = pieces at hgood hcount hpieces
      cases pieces with
      | nil => exact absurd rfl hpieces.ne_nil
      | cons first rest =>
        exact .tooManyComponents hbody htag hpieces
          (fun piece hmem => not_isBadPiece_iff.2 (hgood piece hmem)) hcount
    · cases h
  · intro h
    cases h with
    | noNumber hbody => exact check_bind_eq_error.2 (.inl (checkBody_eq_error.2 ⟨hbody, rfl⟩))
    | badTag hbody htag hbad =>
      refine check_bind_eq_error.2 (.inr ⟨checkBody_eq_ok.2 hbody, ?_⟩)
      exact check_bind_eq_error.2 (.inl (checkTag_eq_error.2 ⟨_, htag, hbad, rfl⟩))
    | badComponent hbody htag hpieces hbefore hbad =>
      refine check_bind_eq_error.2 (.inr ⟨checkBody_eq_ok.2 hbody, ?_⟩)
      refine check_bind_eq_error.2 (.inr ⟨checkTag_eq_ok_iff_not_isBadTag.2 htag, ?_⟩)
      rw [← pieces_iff.1 hpieces]
      exact bind_eq_error.2
        (.inl (readComponents_eq_error.2 ⟨_, _, _, rfl, hbefore, hbad, rfl⟩))
    | tooManyComponents hbody htag hpieces hgood hcount =>
      refine check_bind_eq_error.2 (.inr ⟨checkBody_eq_ok.2 hbody, ?_⟩)
      refine check_bind_eq_error.2 (.inr ⟨checkTag_eq_ok_iff_not_isBadTag.2 htag, ?_⟩)
      rw [← pieces_iff.1 hpieces]
      refine bind_eq_error.2 (.inr ⟨_, readComponents_eq_ok.2 ⟨?_, rfl⟩, ?_⟩)
      · exact fun piece hmem => not_isBadPiece_iff.1 (hgood piece hmem)
      · exact check_bind_eq_error.2 (.inl (checkCount_eq_error.2 ⟨hcount, rfl⟩))

theorem parse_eq_error_iff {raw : String} (hcut : Cuts raw.toList body tag) {e : Error} :
    parse raw = .error e ↔ e.input = raw ∧ Diagnosis body tag e.fault := by
  rw [← ofChars_eq_error hcut]
  unfold parse
  rw [mapError_eq_error]
  constructor
  · rintro ⟨fault, h, rfl⟩
    exact ⟨rfl, h⟩
  · rintro ⟨rfl, h⟩
    exact ⟨e.fault, h, rfl⟩

/-- Every text has one cut. -/
theorem exists_cuts_iff (raw : List Char) :
    ∃ body tag, ∀ body' tag', Cuts raw body' tag' ↔ body' = body ∧ tag' = tag := by
  refine ⟨(cutTag raw).1, (cutTag raw).2, fun body' tag' => ?_⟩
  rw [cuts_iff, Prod.ext_iff, eq_comm (a := body'), eq_comm (a := tag')]

theorem existsUnique_diagnosis_iff {raw : String} (hcut : Cuts raw.toList body tag) :
    (∃! fault, Diagnosis body tag fault) ↔ ∀ v, parse raw ≠ .ok v := by
  constructor
  · rintro ⟨fault, hfault, -⟩ v hv
    have herror := (parse_eq_error_iff hcut (e := ⟨raw, fault⟩)).2 ⟨rfl, hfault⟩
    cases herror.symm.trans hv
  · intro hrefused
    cases hparse : parse raw with
    | ok v => exact absurd hparse (hrefused v)
    | error e =>
      refine ⟨e.fault, ((parse_eq_error_iff hcut).1 hparse).2, fun fault hfault => ?_⟩
      have herror := (parse_eq_error_iff hcut (e := ⟨raw, fault⟩)).2 ⟨rfl, hfault⟩
      rw [Except.error.inj (hparse.symm.trans herror)]

theorem diagnosis_noNumber_iff : Diagnosis body tag .noNumber ↔ body = [] := by
  constructor
  · rintro ⟨hbody⟩
    exact hbody
  · exact .noNumber

theorem exists_diagnosis_badTag_iff (hbody : body ≠ []) :
    (∃ text, Diagnosis body tag (.badTag text)) ↔ ∃ text ∈ tag, IsBadTag text := by
  constructor
  · rintro ⟨_, _ | ⟨-, htag, hbad⟩⟩
    exact ⟨_, htag, hbad⟩
  · rintro ⟨text, htag, hbad⟩
    exact ⟨_, .badTag hbody htag hbad⟩

/-- If there is a bad piece then there is a leftmost one. -/
theorem exists_leftmost_isBadPiece (h : ∃ piece ∈ pieces, IsBadPiece piece) :
    ∃ before piece after, pieces = before ++ piece :: after ∧
      (∀ other ∈ before, ¬ IsBadPiece other) ∧ IsBadPiece piece := by
  obtain ⟨piece, hmem, hbad⟩ := h
  cases hread : pieces.mapM readComponent with
  | ok components =>
    exact absurd ((readComponents_eq_ok.1 hread).1 piece hmem) (isBadPiece_iff.1 hbad)
  | error fault =>
    obtain ⟨before, first, after, hsplit, hbefore, hfirst, -⟩ := readComponents_eq_error.1 hread
    exact ⟨before, first, after, hsplit, hbefore, hfirst⟩

theorem exists_diagnosis_badComponent_iff (hbody : body ≠ [])
    (htag : ∀ text ∈ tag, ¬ IsBadTag text) :
    (∃ piece, Diagnosis body tag (.badComponent piece)) ↔
      ∃ pieces, Pieces body pieces ∧ ∃ piece ∈ pieces, IsBadPiece piece := by
  constructor
  · rintro ⟨_, _ | _ | ⟨-, -, hpieces, -, hbad⟩⟩
    exact ⟨_, hpieces, _, List.mem_append_right _ List.mem_cons_self, hbad⟩
  · rintro ⟨pieces, hpieces, hexists⟩
    obtain ⟨before, piece, after, rfl, hbefore, hbad⟩ := exists_leftmost_isBadPiece hexists
    exact ⟨_, .badComponent hbody htag hpieces hbefore hbad⟩

/-! ## A check that nothing reaches -/

/-- Refuses an empty list of components with this fault. -/
def checkNumbers (guard : Fault) (components : List Nat) : Except Fault Unit :=
  if components.isEmpty then .error guard else .ok ()

/-- Reading with one more check between the pieces and their count. -/
def ofCharsGuarded (guard : Fault) (raw : List Char) : Except Fault Version := do
  let (body, tag) := cutTag raw
  checkBody body
  checkTag tag
  let components ← (body.splitOn '.').mapM readComponent
  checkNumbers guard components
  checkCount components
  return { components := pad components, tag := tag.map String.ofList }

/-- A body has a piece, so that its list of components is not empty. -/
theorem checkNumbers_eq_ok {components : List Nat}
    (h : (body.splitOn '.').mapM readComponent = .ok components) (guard : Fault) :
    checkNumbers guard components = .ok () := by
  obtain ⟨-, rfl⟩ := readComponents_eq_ok.1 h
  refine if_neg ?_
  rw [List.isEmpty_iff, List.map_eq_nil_iff]
  exact List.splitOn_ne_nil _ _

theorem ofCharsGuarded_eq (guard : Fault) (raw : List Char) :
    ofCharsGuarded guard raw = ofChars raw := by
  unfold ofCharsGuarded ofChars
  refine bind_congr_of_ok fun _ _ => bind_congr_of_ok fun _ _ => bind_congr_of_ok ?_
  intro components hread
  rw [checkNumbers_eq_ok hread guard]
  rfl

/-! ## Refusals -/

/-- **A text is refused for the first of its faults**, whichever others it has: an empty body, then
a bad tag, then the leftmost bad piece of the body, then too many pieces.  The texts with a diagnosis
are those that are no versions, and none has two; a further check for an empty list of components
would not change the answer. -/
theorem parse_refuses_first_fault (raw : String) :
    ∃ body tag, (∀ body' tag', Cuts raw.toList body' tag' ↔ body' = body ∧ tag' = tag) ∧
      (∀ e, parse raw = .error e ↔ e.input = raw ∧ Diagnosis body tag e.fault) ∧
      ((∃! fault, Diagnosis body tag fault) ↔ ∀ v, parse raw ≠ .ok v) ∧
      (Diagnosis body tag .noNumber ↔ body = []) ∧
      (body ≠ [] →
        ((∃ text, Diagnosis body tag (.badTag text)) ↔ ∃ text ∈ tag, IsBadTag text)) ∧
      (body ≠ [] → (∀ text ∈ tag, ¬ IsBadTag text) →
        ((∃ piece, Diagnosis body tag (.badComponent piece)) ↔
          ∃ pieces, Pieces body pieces ∧ ∃ piece ∈ pieces, IsBadPiece piece)) ∧
      ∀ guard, ofCharsGuarded guard raw.toList = ofChars raw.toList := by
  obtain ⟨body, tag, hcuts⟩ := exists_cuts_iff raw.toList
  have hcut : Cuts raw.toList body tag := (hcuts body tag).2 ⟨rfl, rfl⟩
  exact ⟨body, tag, hcuts, fun e => parse_eq_error_iff hcut, existsUnique_diagnosis_iff hcut,
    diagnosis_noNumber_iff, exists_diagnosis_badTag_iff, exists_diagnosis_badComponent_iff,
    fun guard => ofCharsGuarded_eq guard raw.toList⟩

/-- A piece that is no numeral, an empty one behind it, and one too many; and the same with a tag
that has a space in it. -/
theorem parse_of_several_faults :
    parse "0.x..4-a" = .error ⟨"0.x..4-a", .badComponent "x"⟩ ∧
      parse "0.x..4-a b" = .error ⟨"0.x..4-a b", .badTag "a b"⟩ := by
  constructor
  · obtain ⟨body, tag, hcuts, herror, -⟩ := parse_refuses_first_fault "0.x..4-a"
    have hcut : Cuts ("0.x..4".toList ++ '-' :: "a".toList) "0.x..4".toList (some "a".toList) :=
      .hyphen (by decide)
    obtain ⟨rfl, rfl⟩ := (hcuts _ _).1 hcut
    have hpieces : Pieces "0.x..4".toList (["0".toList] ++ "x".toList :: [[], "4".toList]) :=
      ⟨by decide, by decide, rfl⟩
    refine (herror _).2 ⟨rfl, .badComponent (by decide) ?_ hpieces ?_ ?_⟩
    · rintro text ⟨⟩
      exact not_or.2 ⟨by decide, by decide⟩
    · intro other hmem
      rw [List.mem_singleton.1 hmem, not_isBadPiece_iff]
      decide
    · exact .stray List.mem_cons_self (by decide)
  · obtain ⟨body, tag, hcuts, herror, -⟩ := parse_refuses_first_fault "0.x..4-a b"
    have hcut : Cuts ("0.x..4".toList ++ '-' :: "a b".toList) "0.x..4".toList (some "a b".toList) :=
      .hyphen (by decide)
    obtain ⟨rfl, rfl⟩ := (hcuts _ _).1 hcut
    exact (herror _).2 ⟨rfl, .badTag (by decide) rfl (.inr (by decide))⟩

end PluginKit.Version
