import PluginKit.Catalog
import PluginKit.Proofs.Data.Document
import PluginKit.Proofs.Json.Draft

/-!
# Settings and catalogs in documents

Settings and catalogs are written to objects and read back, whether as JSON values or as JSON texts:

    ofDocument? s.toJson = some s                                            (ofDocument?_toJson)
    (Draft.ofText? s.toJson.compact).bind ofDocument? = some s              (ofDocument?_compact)
    (Json.parse? s.toJson.render).bind ofDocument? = some s                  (ofDocument?_render)

How settings are presented does not matter: unknown keys, defaults that are written out, and a list
instead of a table (`read_back_however_presented`).
-/

namespace PluginKit.Settings

open Document Entries Json

/-! ## Messages -/

section Messages

/-- Messages as the entries of an object. -/
def jsonEntries (messages : List (UInt32 × String)) : List (String × Json) :=
  messages.map fun (code, message) => (String.ofList (Numeral.write code.toNat), .str message)

/-- Messages as the entries of an object in a text. -/
def draftEntries (messages : List (UInt32 × String)) : List (List Char × Draft) :=
  messages.map fun (code, message) => (Numeral.write code.toNat, .str (escape message.toList))

theorem text?_write (code : UInt32) :
    Draft.text? (Numeral.write code.toNat) = some (String.ofList (Numeral.write code.toNat)) := by
  have hkey := text?_escape (String.ofList (Numeral.write code.toNat))
  rwa [String.toList_ofList, escape_write] at hkey

theorem entryDrafts?_jsonEntries (messages : List (UInt32 × String)) :
    entryDrafts? (jsonEntries messages) = some (draftEntries messages) := by
  induction messages with
  | nil => rfl
  | cons entry rest ih =>
    obtain ⟨code, message⟩ := entry
    refine entryDrafts?_cons.2 ⟨_, _, rfl, ih, ?_⟩
    rw [String.toList_ofList, escape_write]
    rfl

theorem draft?_messagesToJson (messages : Table UInt32 String) :
    (messagesToJson messages).draft? = some (.obj (draftEntries messages.entries)) :=
  congrArg (Option.map Draft.obj) (entryDrafts?_jsonEntries messages.entries)

theorem valueWithin?_str (text : String) (depth : Nat) :
    (Draft.str (escape text.toList)).valueWithin? depth = some (.str text) := by
  rw [Draft.valueWithin?, text?_escape]
  rfl

theorem entriesWithin?_draftEntries (messages : List (UInt32 × String)) (depth : Nat) :
    Draft.entriesWithin? depth (draftEntries messages) = some (jsonEntries messages) := by
  induction messages with
  | nil => rfl
  | cons entry rest ih =>
    obtain ⟨code, message⟩ := entry
    show Draft.entriesWithin? depth (_ :: draftEntries rest) = _
    rw [Draft.entriesWithin?, text?_write, valueWithin?_str, ih]
    rfl

/-- In the value of a text the messages are sorted by their keys as texts. -/
theorem valueWithin?_draftEntries (messages : List (UInt32 × String)) (depth : Nat) :
    (Draft.obj (draftEntries messages)).valueWithin? (depth + 1) =
      some (record (jsonEntries messages)) := by
  rw [Draft.valueWithin?, if_neg (Nat.succ_ne_zero _), Nat.add_sub_cancel,
    entriesWithin?_draftEntries]
  rfl

theorem spells_jsonEntries (messages : List (UInt32 × String)) :
    List.Forall₂ Json.language.Spells (jsonEntries messages) messages := by
  unfold jsonEntries
  rw [List.forall₂_map_left_iff, List.forall₂_same]
  rintro ⟨code, message⟩ -
  refine ⟨?_, rfl⟩
  show Json.code? (String.ofList (Numeral.write code.toNat)).toList = some code
  rw [String.toList_ofList, code?_write]

theorem spells_draftEntries (messages : List (UInt32 × String)) :
    List.Forall₂ Json.Draft.language.Spells (draftEntries messages) messages := by
  unfold draftEntries
  rw [List.forall₂_map_left_iff, List.forall₂_same]
  rintro ⟨code, message⟩ -
  exact ⟨code?_write code, text?_escape message⟩

theorem nodup_keys_jsonEntries (messages : Table UInt32 String) :
    ((jsonEntries messages.entries).map Prod.fst).Nodup := by
  have hkeys : (jsonEntries messages.entries).map Prod.fst =
      (messages.entries.map Prod.fst).map fun code =>
        String.ofList (Numeral.write code.toNat) := by
    unfold jsonEntries
    rw [List.map_map, List.map_map]
    rfl
  rw [hkeys]
  refine messages.nodup_keys.map ?_
  intro code code' h
  have hcode := code?_write code
  rw [String.ofList_inj.1 h, code?_write] at hcode
  exact (Option.some.inj hcode).symm

variable (messages : Table UInt32 String)

theorem messages?_toJson : messages? (messagesToJson messages) = some messages :=
  messages?_of_perm (L := Json.language) (List.Perm.refl _) (spells_jsonEntries messages.entries)

theorem messages?_draft : messages? (Draft.obj (draftEntries messages.entries)) = some messages :=
  messages?_of_perm (L := Json.Draft.language) (List.Perm.refl _)
    (spells_draftEntries messages.entries)

theorem messages?_record : messages? (record (jsonEntries messages.entries)) = some messages :=
  messages?_of_perm (L := Json.language) (sort_perm (nodup_keys_jsonEntries messages))
    (spells_jsonEntries messages.entries)

end Messages

/-! ## Reading settings -/

section Reading

variable {δ κ : Type} [Document δ] {L : Language δ κ} {key : κ} {value : δ} {name : String}
  {items : List δ} {entries before after : List (κ × δ)} {s : Settings}

/-- The names of the fields in their order. -/
def fieldNames : List String :=
  ["version", "api_root", "error_messages"]

theorem nodup_fieldNames : fieldNames.Nodup := by decide

/-- The settings that fields give. -/
def ofFields? : List (Option δ) → Option Settings
  | [version, apiRoot, messages] => do
    return {
      version := ← orDefault ({} : Settings).version text? version
      apiRoot := ← orDefault ({} : Settings).apiRoot text? apiRoot
      messages := ← orDefault ∅ messages? messages }
  | _ => none

theorem ofDocument?_eq (document : δ) :
    ofDocument? document = (fields? fieldNames document).bind ofFields? := rfl

/-- Each field is read from the entries for its name. -/
theorem ofDocument?_table (entries : List (κ × δ)) :
    ofDocument? (L.table entries) =
      if (L.named entries).any fun entry => entry.1.isNone then none
      else do
        return {
          version := ← readField "version" (orDefault ({} : Settings).version text?)
            (L.named entries)
          apiRoot := ← readField "api_root" (orDefault ({} : Settings).apiRoot text?)
            (L.named entries)
          messages := ← readField "error_messages" (orDefault ∅ messages?) (L.named entries) } := by
  rw [ofDocument?_eq, fields?_table]
  split
  · rfl
  · unfold readField fieldNames
    rw [List.mapM_cons, List.mapM_cons, List.mapM_cons, List.mapM_nil]
    generalize single? (valuesAt (some "version") (L.named entries)) = version
    generalize single? (valuesAt (some "api_root") (L.named entries)) = apiRoot
    generalize single? (valuesAt (some "error_messages") (L.named entries)) = messages
    -- the table has a field twice, or the three values are read in turn
    rcases version with _ | version
    · rfl
    rcases apiRoot with _ | apiRoot
    · rw [Option.bind_some]
      cases orDefault ({} : Settings).version text? version <;> rfl
    rcases messages with _ | messages
    · rw [Option.bind_some, Option.bind_some]
      cases orDefault ({} : Settings).version text? version with
      | none => rfl
      | some _ => cases orDefault ({} : Settings).apiRoot text? apiRoot <;> rfl
    · rfl

/-- A table with the three fields, in any order, gives what its values say. -/
theorem ofDocument?_of_perm {version apiRoot messages : δ}
    (hperm : (L.named entries).Perm ((fieldNames.map some).zip [version, apiRoot, messages]))
    (hversion : text? version = some s.version) (hapiRoot : text? apiRoot = some s.apiRoot)
    (hmessages : messages? messages = some s.messages) :
    ofDocument? (L.table entries) = some s := by
  have hlength : [version, apiRoot, messages].length ≤ fieldNames.length := Nat.le_refl 3
  rw [ofDocument?_eq, fields?_of_perm nodup_fieldNames hlength hperm]
  show ((text? version).bind fun v => (text? apiRoot).bind fun a => (messages? messages).bind
    fun m => some (Settings.mk v a m)) = some s
  rw [hversion, hapiRoot, hmessages]
  rfl

theorem ofDocument?_toJson (s : Settings) : ofDocument? s.toJson = some s :=
  ofDocument?_of_perm (L := Json.language) (List.Perm.refl _) rfl rfl (messages?_toJson s.messages)

/-- The draft of settings that are written. -/
def draft (s : Settings) : Draft :=
  .obj [(escape "version".toList, .str (escape s.version.toList)),
    (escape "api_root".toList, .str (escape s.apiRoot.toList)),
    (escape "error_messages".toList, .obj (draftEntries s.messages.entries))]

theorem draft?_toJson (s : Settings) : s.toJson.draft? = some s.draft := by
  refine Option.map_eq_some_iff.2 ⟨_, ?_, rfl⟩
  refine entryDrafts?_cons.2 ⟨_, _, rfl, ?_, rfl⟩
  refine entryDrafts?_cons.2 ⟨_, _, rfl, ?_, rfl⟩
  exact entryDrafts?_cons.2 ⟨_, _, draft?_messagesToJson s.messages, rfl, rfl⟩

theorem ofDocument?_compact (s : Settings) :
    (Draft.ofText? s.toJson.compact).bind ofDocument? = some s := by
  rw [ofText?_compact (draft?_toJson s), Option.bind_some]
  have hversion : text? (Draft.str (escape s.version.toList)) = some s.version := text?_escape _
  have hapiRoot : text? (Draft.str (escape s.apiRoot.toList)) = some s.apiRoot := text?_escape _
  refine ofDocument?_of_perm (L := Json.Draft.language) ?_ hversion hapiRoot
    (messages?_draft s.messages)
  have hnamed : ∀ (name : String) (value : Draft),
      ((Json.Draft.language.key (escape name.toList)).name?, value) = (some name, value) :=
    fun name _ => congrArg (·, _) (text?_escape name)
  unfold Language.named
  rw [List.map_cons, List.map_cons, List.map_cons, List.map_nil, hnamed, hnamed, hnamed]
  exact List.Perm.refl _

theorem ofDocument?_render (s : Settings) :
    (Json.parse? s.toJson.render).bind ofDocument? = some s := by
  have hvalue : s.draft.value? = some (record [("version", .str s.version),
      ("api_root", .str s.apiRoot),
      ("error_messages", record (jsonEntries s.messages.entries))]) := by
    have hmessages : (Draft.obj (draftEntries s.messages.entries)).valueWithin? 126 = _ :=
      valueWithin?_draftEntries s.messages.entries 125
    show ((Draft.entriesWithin? 126 _).map record) = _
    simp only [Draft.entriesWithin?, valueWithin?_str, text?_escape, hmessages]
    rfl
  unfold Json.parse? Json.render
  rw [String.toList_ofList, ofText?_compact (draft?_toJson s), Option.bind_some, hvalue,
    Option.bind_some]
  have hversion : text? (Json.str s.version) = some s.version := rfl
  have hapiRoot : text? (Json.str s.apiRoot) = some s.apiRoot := rfl
  refine ofDocument?_of_perm (L := Json.language) ?_ hversion hapiRoot
    (messages?_record s.messages)
  refine (sort_perm ?_).map _
  exact nodup_fieldNames

/-! ### Presentation -/

/-- A key that is no field is passed over. -/
theorem ofDocument?_of_unknown (hkey : (L.key key).name? = some name) (h : name ∉ fieldNames) :
    ofDocument? (L.table (before ++ (key, value) :: after)) =
      ofDocument? (L.table (before ++ after)) := by
  rw [ofDocument?_eq, ofDocument?_eq, fields?_of_not_mem hkey h]

/-- A field is given the value that it has if it is left out. -/
inductive WritesDefault (L : Language δ κ) : String → δ → Prop
  | version {value : δ} (h : text? value = some ({} : Settings).version) :
    WritesDefault L "version" value
  | apiRoot {value : δ} (h : text? value = some ({} : Settings).apiRoot) :
    WritesDefault L "api_root" value
  | messages : WritesDefault L "error_messages" (L.table [])

theorem ofDocument?_of_default (hkey : (L.key key).name? = some name)
    (hdefault : WritesDefault L name value)
    (h : ∀ entry ∈ before ++ after, (L.key entry.1).name? ≠ some name) :
    ofDocument? (L.table (before ++ (key, value) :: after)) =
      ofDocument? (L.table (before ++ after)) := by
  have hne : ∀ other, name ≠ other → (L.key key).name? ≠ some other := by
    intro other hother heq
    exact hother (Option.some.inj (hkey.symm.trans heq))
  rw [ofDocument?_table, ofDocument?_table, any_named (by rw [hkey]; rfl)]
  cases hdefault with
  | version hvalue =>
    rw [readField_of_missing hkey h hvalue, readField_of_ne (hne "api_root" (by decide)),
      readField_of_ne (hne "error_messages" (by decide))]
  | apiRoot hvalue =>
    rw [readField_of_missing hkey h hvalue, readField_of_ne (hne "version" (by decide)),
      readField_of_ne (hne "error_messages" (by decide))]
  | messages =>
    have hvalue : messages? (L.table []) = some ∅ := messages?_eq_some.2 ⟨[], .nil, rfl⟩
    rw [readField_of_missing hkey h hvalue, readField_of_ne (hne "version" (by decide)),
      readField_of_ne (hne "api_root" (by decide))]

/-- A list gives the same settings as a table whose entries are named after its items. -/
theorem ofDocument?_list (hlength : items.length ≤ 3)
    (hperm : (L.named entries).Perm ((fieldNames.map some).zip items)) :
    ofDocument? (L.list items) = ofDocument? (L.table entries) := by
  rw [ofDocument?_eq, ofDocument?_eq, fields?_list hlength,
    fields?_of_perm nodup_fieldNames hlength hperm]

/-! ### Messages of settings -/

variable [DecidableEq κ]

theorem holds_of_ofDocument? {messages : List (κ × δ)} (h : ofDocument? (L.table entries) = some s)
    (hkey : (L.key key).name? = some "error_messages")
    (hmem : (key, L.table messages) ∈ entries) : L.Holds messages s.messages := by
  have hfield : readField "error_messages" (orDefault ∅ messages?) (L.named entries) =
      some s.messages := by
    rw [ofDocument?_table] at h
    split at h
    · cases h
    · obtain ⟨version, -, h⟩ := Option.bind_eq_some_iff.1 h
      obtain ⟨apiRoot, -, h⟩ := Option.bind_eq_some_iff.1 h
      obtain ⟨table, htable, h⟩ := Option.bind_eq_some_iff.1 h
      cases h
      exact htable
  refine holds_of_messages? (readField_of_mem hfield ?_)
  rw [← hkey]
  exact List.mem_map_of_mem hmem

end Reading

end PluginKit.Settings

namespace PluginKit.Catalog

open Document Entries Json Settings

/-! ## Catalogs -/

section Reading

variable {δ κ : Type} [Document δ] {L : Language δ κ} {key : κ} {entries : List (κ × δ)}
  {c : Catalog}

/-- The messages are read from the entry for their name. -/
theorem ofDocument?_table (entries : List (κ × δ)) :
    ofDocument? (L.table entries) =
      if (L.named entries).any fun entry => entry.1.isNone then none
      else (readField "messages" (·.bind messages?) (L.named entries)).map Catalog.mk := by
  unfold ofDocument?
  rw [fields?_table]
  split
  · rfl
  · unfold readField
    rw [List.mapM_cons, List.mapM_nil]
    rcases single? (valuesAt (some "messages") (L.named entries)) with _ | _ | messages
    · rfl
    · rfl
    · show (messages? messages).bind _ = (messages? messages).map Catalog.mk
      cases messages? messages <;> rfl

/-- A table with messages as its only entry gives these messages. -/
theorem ofDocument?_of_messages {messages : δ} (hkey : (L.key key).name? = some "messages")
    (hmessages : messages? messages = some c.messages) :
    ofDocument? (L.table [(key, messages)]) = some c := by
  rw [ofDocument?_table, Language.named, List.map_singleton, hkey]
  unfold readField
  rw [valuesAt_cons, if_pos rfl]
  show Option.map Catalog.mk (messages? messages) = some c
  rw [hmessages]
  rfl

theorem ofDocument?_toJson (c : Catalog) : ofDocument? c.toJson = some c :=
  ofDocument?_of_messages (L := Json.language) rfl (messages?_toJson c.messages)

theorem draft?_toJson (c : Catalog) :
    c.toJson.draft? = some (.obj [(escape "messages".toList,
      .obj (draftEntries c.messages.entries))]) := by
  refine Option.map_eq_some_iff.2 ⟨_, ?_, rfl⟩
  exact entryDrafts?_cons.2 ⟨_, _, draft?_messagesToJson c.messages, rfl, rfl⟩

theorem ofDocument?_compact (c : Catalog) :
    (Draft.ofText? c.toJson.compact).bind ofDocument? = some c := by
  rw [ofText?_compact (draft?_toJson c), Option.bind_some]
  exact ofDocument?_of_messages (L := Json.Draft.language) (text?_escape "messages")
    (messages?_draft c.messages)

theorem ofDocument?_render (c : Catalog) :
    (Json.parse? c.toJson.render).bind ofDocument? = some c := by
  have hvalue : Draft.value? (.obj [(escape "messages".toList,
      .obj (draftEntries c.messages.entries))]) =
        some (record [("messages", record (jsonEntries c.messages.entries))]) := by
    have hmessages : (Draft.obj (draftEntries c.messages.entries)).valueWithin? 126 = _ :=
      valueWithin?_draftEntries c.messages.entries 125
    show ((Draft.entriesWithin? 126 _).map record) = _
    simp only [Draft.entriesWithin?, text?_escape, hmessages]
    rfl
  unfold Json.parse? Json.render
  rw [String.toList_ofList, ofText?_compact (draft?_toJson c), Option.bind_some, hvalue,
    Option.bind_some]
  exact ofDocument?_of_messages (L := Json.language) rfl (messages?_record c.messages)

variable [DecidableEq κ]

theorem holds_of_ofDocument? {messages : List (κ × δ)} (h : ofDocument? (L.table entries) = some c)
    (hkey : (L.key key).name? = some "messages") (hmem : (key, L.table messages) ∈ entries) :
    L.Holds messages c.messages := by
  have hfield : readField "messages" (·.bind messages?) (L.named entries) = some c.messages := by
    rw [ofDocument?_table] at h
    split at h
    · cases h
    · obtain ⟨table, htable, rfl⟩ := Option.map_eq_some_iff.1 h
      exact htable
  refine holds_of_messages? (readField_of_mem hfield ?_)
  rw [← hkey]
  exact List.mem_map_of_mem hmem

end Reading

end PluginKit.Catalog

namespace PluginKit.Settings

open Document Entries Json

/-- **Settings and catalogs are read back from what they are written to**, and no message is lost.
How settings are presented does not matter, in JSON values (`Json.language`) and in JSON texts
(`Json.Draft.language`): keys that are no fields are passed over, a field may be left out for its
default, and a list gives the fields in turn. -/
theorem read_back_however_presented :
    (∀ s : Settings, ofDocument? s.toJson = some s ∧
      (Draft.ofText? s.toJson.compact).bind ofDocument? = some s ∧
      (Json.parse? s.toJson.render).bind ofDocument? = some s) ∧
    (∀ c : Catalog, Catalog.ofDocument? c.toJson = some c ∧
      (Draft.ofText? c.toJson.compact).bind Catalog.ofDocument? = some c ∧
      (Json.parse? c.toJson.render).bind Catalog.ofDocument? = some c) ∧
    ∀ {δ κ : Type} [Document δ] [DecidableEq κ] (L : Language δ κ),
      (∀ (before after : List (κ × δ)) (key : κ) (value : δ) (name : String),
        (L.key key).name? = some name →
        name ∉ ["version", "api_root", "error_messages"] ∨
          WritesDefault L name value ∧
            (∀ entry ∈ before ++ after, (L.key entry.1).name? ≠ some name) →
        ofDocument? (L.table (before ++ (key, value) :: after)) =
          ofDocument? (L.table (before ++ after))) ∧
      (∀ (items : List δ) (entries : List (κ × δ)), items.length ≤ 3 →
        (L.named entries).Perm
          ([some "version", some "api_root", some "error_messages"].zip items) →
        ofDocument? (L.list items) = ofDocument? (L.table entries)) ∧
      ∀ (entries messages : List (κ × δ)) (key : κ), (key, L.table messages) ∈ entries →
        (∀ s : Settings, ofDocument? (L.table entries) = some s →
          (L.key key).name? = some "error_messages" → L.Holds messages s.messages) ∧
        ∀ c : Catalog, Catalog.ofDocument? (L.table entries) = some c →
          (L.key key).name? = some "messages" → L.Holds messages c.messages := by
  refine ⟨fun s => ⟨ofDocument?_toJson s, ofDocument?_compact s, ofDocument?_render s⟩,
    fun c => ⟨c.ofDocument?_toJson, c.ofDocument?_compact, c.ofDocument?_render⟩, ?_⟩
  intro δ κ _ _ L
  refine ⟨?_, fun items entries hlength hperm => ofDocument?_list hlength hperm, ?_⟩
  · rintro before after key value name hkey (hunknown | ⟨hdefault, hmissing⟩)
    · exact ofDocument?_of_unknown hkey hunknown
    · exact ofDocument?_of_default hkey hdefault hmissing
  · intro entries messages key hmem
    exact ⟨fun s h hkey => holds_of_ofDocument? h hkey hmem,
      fun c h hkey => Catalog.holds_of_ofDocument? h hkey hmem⟩

/-- Settings for a version, with an unknown key, with a default that is written out and as a list;
and messages in a text with a code that stands twice. -/
theorem version_and_messages_read_back :
    let version : List (String × Json) := [("version", .str "1.2.3")]
    let messages : List (List Char × Draft) := [(['7'], .str ['a']), (['0'], .str []),
      (['7'], .str ['b'])]
    let entries := [("error_messages".toList, Json.Draft.language.table messages)]
    let s : Settings := { messages := .ofList [(0, ""), (7, "b")] }
    (ofDocument? (Json.language.table (version ++ [("color", .str "red")])) =
        ofDocument? (Json.language.table version) ∧
      ofDocument? (Json.language.table (version ++ [("error_messages", .obj [])])) =
        ofDocument? (Json.language.table version) ∧
      ofDocument? (Json.language.list [.str "1.2.3"]) =
        ofDocument? (Json.language.table version)) ∧
    ofDocument? (Json.Draft.language.table entries) = some s ∧
    Json.Draft.language.Holds messages s.messages := by
  intro version messages entries s
  obtain ⟨-, -, h⟩ := read_back_however_presented
  obtain ⟨hadded, hlist, -⟩ := h Json.language
  obtain ⟨-, -, hholds⟩ := h Json.Draft.language
  have hcolor := hadded version [] "color" (.str "red") "color" rfl (.inl (by decide))
  have hdefault := hadded version [] "error_messages" (.obj []) "error_messages" rfl
    (.inr ⟨.messages, by decide⟩)
  have hread : ofDocument? (Json.Draft.language.table entries) = some s := by decide
  exact ⟨⟨hcolor, hdefault, hlist [.str "1.2.3"] version (by decide) (List.Perm.refl _)⟩, hread,
    (hholds entries messages _ List.mem_cons_self).1 s hread rfl⟩

end PluginKit.Settings
