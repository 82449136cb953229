import PluginKit.Proofs.Json.Escape

/-!
# Texts that are written are read back

The tokens of a draft spell it, and a value without numbers is written so that each token ends where
the next one begins.  The text of such a value is therefore read as the draft of the value:

    ofTokens? draft.tokens = some draft                                         (ofTokens?_tokens)
    value.draft? = some draft → Scans value.compact draft.tokens                   (scans_compact)
    value.draft? = some draft → Draft.ofText? value.compact = some draft       (ofText?_compact)
-/

namespace PluginKit.Json

/-! ## Drafts and their tokens -/

namespace Draft

mutual

/-- The tokens of a draft. -/
def tokens : Draft → List Token
  | .null => [.null]
  | .bool value => [.bool value]
  | .num literal => [.num literal]
  | .str raw => [.str raw]
  | .arr items => .openArray :: itemTokens items ++ [.closeArray]
  | .obj entries => .openObject :: entryTokens entries ++ [.closeObject]

/-- The tokens of items, with commas between them. -/
def itemTokens : List Draft → List Token
  | [] => []
  | [item] => tokens item
  | item :: rest => tokens item ++ .comma :: itemTokens rest

/-- The tokens of entries, with commas between them. -/
def entryTokens : List (List Char × Draft) → List Token
  | [] => []
  | [(key, value)] => .str key :: .colon :: tokens value
  | (key, value) :: rest => .str key :: .colon :: tokens value ++ .comma :: entryTokens rest

end

/-- The first token of a draft does not end an array, so that an item is read in the same way
whether it is the first or not. -/
theorem foldlM_firstItem (draft : Draft) (frames : List Frame) (rest : List Token) :
    (draft.tokens ++ rest).foldlM step ⟨frames, .firstItem⟩ =
      (draft.tokens ++ rest).foldlM step ⟨frames, .value⟩ := by
  cases draft <;> rw [tokens] <;> rfl

theorem itemTokens_cons_cons (item next : Draft) (rest : List Draft) :
    itemTokens (item :: next :: rest) = item.tokens ++ .comma :: itemTokens (next :: rest) := by
  rw [itemTokens]
  exact List.cons_ne_nil _ _

theorem entryTokens_cons_cons (key : List Char) (value : Draft) (next : List Char × Draft)
    (rest : List (List Char × Draft)) :
    entryTokens ((key, value) :: next :: rest) =
      .str key :: .colon :: value.tokens ++ .comma :: entryTokens (next :: rest) := by
  rw [entryTokens]
  exact List.cons_ne_nil _ _

theorem exists_itemTokens_eq (item : Draft) (rest : List Draft) :
    ∃ behind, itemTokens (item :: rest) = item.tokens ++ behind := by
  cases rest with
  | nil => exact ⟨[], by rw [itemTokens, List.append_nil]⟩
  | cons next rest => exact ⟨_, itemTokens_cons_cons item next rest⟩

theorem exists_entryTokens_eq (key : List Char) (value : Draft) (rest : List (List Char × Draft)) :
    ∃ behind, entryTokens ((key, value) :: rest) = .str key :: behind := by
  cases rest with
  | nil => exact ⟨_, by rw [entryTokens]⟩
  | cons next rest => exact ⟨_, entryTokens_cons_cons key value next rest⟩

mutual

/-- Where a value is expected, the tokens of a draft are read as this draft. -/
theorem foldlM_tokens (draft : Draft) (frames : List Frame) :
    draft.tokens.foldlM step ⟨frames, .value⟩ = some ⟨frames, .after draft⟩ := by
  match draft with
  | .null => rw [tokens]; rfl
  | .bool _ => rw [tokens]; rfl
  | .num _ => rw [tokens]; rfl
  | .str _ => rw [tokens]; rfl
  | .arr [] => rw [tokens, itemTokens]; rfl
  | .arr (item :: rest) =>
    have hitems := foldlM_itemTokens (item :: rest) (List.cons_ne_nil _ _) [] frames
    obtain ⟨behind, hbehind⟩ := exists_itemTokens_eq item rest
    have hfirst := foldlM_firstItem item (.arr [] :: frames) (behind ++ [Token.closeArray])
    rw [← List.append_assoc, ← hbehind] at hfirst
    rw [tokens]
    exact hfirst.trans hitems
  | .obj [] => rw [tokens, entryTokens]; rfl
  | .obj ((key, value) :: rest) =>
    have hentries := foldlM_entryTokens ((key, value) :: rest) (List.cons_ne_nil _ _) [] frames
    obtain ⟨behind, hbehind⟩ := exists_entryTokens_eq key value rest
    rw [hbehind] at hentries
    rw [tokens, hbehind]
    exact hentries

/-- The tokens of items are read behind those that are done. -/
theorem foldlM_itemTokens (items : List Draft) (hne : items ≠ []) (done : List Draft)
    (frames : List Frame) :
    (itemTokens items ++ [Token.closeArray]).foldlM step ⟨.arr done :: frames, .value⟩ =
      some ⟨frames, .after (.arr (done.reverse ++ items))⟩ := by
  match items with
  | [] => exact absurd rfl hne
  | [item] =>
    rw [itemTokens, List.foldlM_append, foldlM_tokens item (.arr done :: frames),
      ← List.reverse_cons]
    rfl
  | item :: next :: rest =>
    have hrest := foldlM_itemTokens (next :: rest) (List.cons_ne_nil _ _) (item :: done) frames
    rw [List.reverse_cons, List.append_assoc] at hrest
    rw [itemTokens_cons_cons, List.append_assoc, List.foldlM_append,
      foldlM_tokens item (.arr done :: frames)]
    exact hrest

/-- The tokens of entries are read behind those that are done. -/
theorem foldlM_entryTokens (entries : List (List Char × Draft)) (hne : entries ≠ [])
    (done : List (List Char × Draft)) (frames : List Frame) :
    (entryTokens entries ++ [Token.closeObject]).foldlM step ⟨frames, .key done⟩ =
      some ⟨frames, .after (.obj (done.reverse ++ entries))⟩ := by
  match entries with
  | [] => exact absurd rfl hne
  | [(key, value)] =>
    rw [entryTokens]
    show (value.tokens ++ [Token.closeObject]).foldlM step ⟨.obj done key :: frames, .value⟩ = _
    rw [List.foldlM_append, foldlM_tokens value (.obj done key :: frames), ← List.reverse_cons]
    rfl
  | (key, value) :: next :: rest =>
    have hrest := foldlM_entryTokens (next :: rest) (List.cons_ne_nil _ _) ((key, value) :: done)
      frames
    rw [List.reverse_cons, List.append_assoc] at hrest
    rw [entryTokens_cons_cons]
    show (value.tokens ++ .comma :: entryTokens (next :: rest) ++ [Token.closeObject]).foldlM step
      ⟨.obj done key :: frames, .value⟩ = _
    rw [List.append_assoc, List.foldlM_append, foldlM_tokens value (.obj done key :: frames)]
    exact hrest

end

/-- The tokens of a draft spell it. -/
theorem ofTokens?_tokens (draft : Draft) : ofTokens? draft.tokens = some draft := by
  unfold ofTokens?
  rw [foldlM_tokens draft []]
  rfl

end Draft

/-! ## Texts and their tokens -/

/-- A text is cut into these tokens, whatever follows it. -/
structure Scans (text : List Char) (tokens : List Token) : Prop where
  length_le : tokens.length ≤ text.length
  scan?_append : ∀ fuel rest, Token.scan? (fuel + tokens.length) (text ++ rest) =
    (Token.scan? fuel rest).map (tokens ++ ·)

theorem Scans.nil : Scans [] [] where
  length_le := Nat.le_refl 0
  scan?_append fuel rest := by
    show Token.scan? fuel rest = _
    cases Token.scan? fuel rest <;> rfl

theorem Scans.append {text text' : List Char} {tokens tokens' : List Token}
    (h : Scans text tokens) (h' : Scans text' tokens') :
    Scans (text ++ text') (tokens ++ tokens') where
  length_le := by
    rw [List.length_append, List.length_append]
    exact Nat.add_le_add h.length_le h'.length_le
  scan?_append fuel rest := by
    have hfuel : fuel + (tokens ++ tokens').length = fuel + tokens'.length + tokens.length := by
      rw [List.length_append]
      omega
    rw [hfuel, List.append_assoc, h.scan?_append, h'.scan?_append, Option.map_map]
    simp only [Function.comp_def, List.append_assoc]

/-- A token that is recognised at the head of a text is the first one. -/
theorem Scans.of_next? {c : Char} {text : List Char} {token : Token}
    (hspace : Token.isSpace c = false)
    (hnext : ∀ rest, Token.next? (c :: text ++ rest) = some (token, rest)) :
    Scans (c :: text) [token] where
  length_le := by simp
  scan?_append fuel rest := by
    have hdrop : (c :: text ++ rest).dropWhile Token.isSpace = c :: text ++ rest :=
      List.dropWhile_cons_of_neg (by simp [hspace])
    show Token.scan? (fuel + 1) (c :: text ++ rest) = _
    rw [Token.scan?, hdrop]
    show (Token.next? (c :: text ++ rest)).bind _ = _
    rw [hnext]
    show (Token.scan? fuel rest).bind (fun tokens => some (token :: tokens)) = _
    cases Token.scan? fuel rest <;> rfl

theorem Scans.ofText?_eq {text : List Char} {tokens : List Token} (h : Scans text tokens) :
    Token.ofText? text = some tokens := by
  have hfuel : text.length + 1 = (text.length - tokens.length) + 1 + tokens.length := by
    have := h.length_le
    omega
  have hscan := h.scan?_append (text.length - tokens.length + 1) []
  rw [← hfuel, List.append_nil] at hscan
  unfold Token.ofText?
  rw [hscan]
  show some (tokens ++ []) = _
  rw [List.append_nil]

theorem scans_str (text : String) : Scans (quote text) [.str (escape text.toList)] := by
  refine Scans.of_next? (by decide) fun rest => ?_
  show (Token.string? (escape text.toList ++ ['"'] ++ rest)).map _ = _
  rw [List.append_assoc, List.singleton_append, string?_escape]
  rfl

/-! ## Values as they are written -/

mutual

/-- The draft of a value as it is written; none for a value with a number in it. -/
def draft? : Json → Option Draft
  | .null => some .null
  | .bool value => some (.bool value)
  | .num _ => none
  | .str value => some (.str (escape value.toList))
  | .arr items => (itemDrafts? items).map .arr
  | .obj entries => (entryDrafts? entries).map .obj

/-- The drafts of items. -/
def itemDrafts? : List Json → Option (List Draft)
  | [] => some []
  | item :: rest => do return (← draft? item) :: (← itemDrafts? rest)

/-- The drafts of entries, with their keys. -/
def entryDrafts? : List (String × Json) → Option (List (List Char × Draft))
  | [] => some []
  | (key, value) :: rest => do
    return (escape key.toList, ← draft? value) :: (← entryDrafts? rest)

end

theorem itemDrafts?_cons {item : Json} {rest : List Json} {drafts : List Draft} :
    itemDrafts? (item :: rest) = some drafts ↔
      ∃ draft others, item.draft? = some draft ∧ itemDrafts? rest = some others ∧
        draft :: others = drafts := by
  rw [itemDrafts?]
  simp [Option.bind_eq_some_iff]

theorem entryDrafts?_cons {key : String} {value : Json} {rest : List (String × Json)}
    {drafts : List (List Char × Draft)} :
    entryDrafts? ((key, value) :: rest) = some drafts ↔
      ∃ draft others, value.draft? = some draft ∧ entryDrafts? rest = some others ∧
        (escape key.toList, draft) :: others = drafts := by
  rw [entryDrafts?]
  simp [Option.bind_eq_some_iff]

theorem compactItems_cons_cons (item next : Json) (rest : List Json) :
    compactItems (item :: next :: rest) = item.compact ++ ',' :: compactItems (next :: rest) := by
  rw [compactItems]
  exact List.cons_ne_nil _ _

theorem compactEntries_cons_cons (key : String) (value : Json) (next : String × Json)
    (rest : List (String × Json)) :
    compactEntries ((key, value) :: next :: rest) =
      quote key ++ ':' :: value.compact ++ ',' :: compactEntries (next :: rest) := by
  rw [compactEntries]
  exact List.cons_ne_nil _ _

mutual

theorem scans_compact (value : Json) {draft : Draft} (h : value.draft? = some draft) :
    Scans value.compact draft.tokens := by
  match value with
  | .null =>
    cases h
    exact .of_next? (by decide) fun _ => rfl
  | .bool true =>
    cases h
    exact .of_next? (by decide) fun _ => rfl
  | .bool false =>
    cases h
    exact .of_next? (by decide) fun _ => rfl
  | .num _ => cases h
  | .str text =>
    cases h
    exact scans_str text
  | .arr items =>
    obtain ⟨drafts, hdrafts, rfl⟩ := Option.map_eq_some_iff.1 h
    have hopen : Scans ['['] [.openArray] := .of_next? (by decide) fun _ => rfl
    have hclose : Scans [']'] [.closeArray] := .of_next? (by decide) fun _ => rfl
    exact (hopen.append (scans_compactItems items hdrafts)).append hclose
  | .obj entries =>
    obtain ⟨drafts, hdrafts, rfl⟩ := Option.map_eq_some_iff.1 h
    have hopen : Scans ['{'] [.openObject] := .of_next? (by decide) fun _ => rfl
    have hclose : Scans ['}'] [.closeObject] := .of_next? (by decide) fun _ => rfl
    exact (hopen.append (scans_compactEntries entries hdrafts)).append hclose

theorem scans_compactItems (items : List Json) {drafts : List Draft}
    (h : itemDrafts? items = some drafts) :
    Scans (compactItems items) (Draft.itemTokens drafts) := by
  match items with
  | [] =>
    cases h
    exact .nil
  | [item] =>
    obtain ⟨draft, others, hdraft, hothers, rfl⟩ := itemDrafts?_cons.1 h
    cases hothers
    rw [compactItems, Draft.itemTokens]
    exact scans_compact item hdraft
  | item :: next :: rest =>
    obtain ⟨draft, others, hdraft, hothers, rfl⟩ := itemDrafts?_cons.1 h
    have hrest := scans_compactItems (next :: rest) hothers
    obtain ⟨draft', others', -, -, rfl⟩ := itemDrafts?_cons.1 hothers
    have hcomma : Scans [','] [.comma] := .of_next? (by decide) fun _ => rfl
    rw [compactItems_cons_cons, Draft.itemTokens_cons_cons]
    exact (scans_compact item hdraft).append (hcomma.append hrest)

theorem scans_compactEntries (entries : List (String × Json)) {drafts : List (List Char × Draft)}
    (h : entryDrafts? entries = some drafts) :
    Scans (compactEntries entries) (Draft.entryTokens drafts) := by
  have hcolon : Scans [':'] [.colon] := .of_next? (by decide) fun _ => rfl
  match entries with
  | [] =>
    cases h
    exact .nil
  | [(key, value)] =>
    obtain ⟨draft, others, hdraft, hothers, rfl⟩ := entryDrafts?_cons.1 h
    cases hothers
    rw [compactEntries, Draft.entryTokens]
    exact (scans_str key).append (hcolon.append (scans_compact value hdraft))
  | (key, value) :: (next, item) :: rest =>
    obtain ⟨draft, others, hdraft, hothers, rfl⟩ := entryDrafts?_cons.1 h
    have hrest := scans_compactEntries ((next, item) :: rest) hothers
    obtain ⟨draft', others', -, -, rfl⟩ := entryDrafts?_cons.1 hothers
    have hcomma : Scans [','] [.comma] := .of_next? (by decide) fun _ => rfl
    rw [compactEntries_cons_cons, Draft.entryTokens_cons_cons]
    have hentry := (scans_str key).append (hcolon.append (scans_compact value hdraft))
    exact hentry.append (hcomma.append hrest)

end

/-- The text of a value without numbers is read as the draft of the value. -/
theorem ofText?_compact {value : Json} {draft : Draft} (h : value.draft? = some draft) :
    Draft.ofText? value.compact = some draft := by
  unfold Draft.ofText?
  rw [(scans_compact value h).ofText?_eq]
  exact Draft.ofTokens?_tokens draft

end PluginKit.Json
