import PluginKit.Catalog

/-!
# Incidents as objects

An incident is written with its context, whatever that is, so that two incidents are never written
alike.  Reading takes a context of null for none:

    ofJson? i.toJson = some { i with context := contextOfJson i.context }         (ofJson?_toJson)
    ofJson? i.toJson = some i ↔ i.context ≠ some .null                     (ofJson?_toJson_eq_iff)
-/

namespace PluginKit.Incident

theorem codeOfJson?_ofNat (code : UInt32) : codeOfJson? (.ofNat code.toNat) = some code := by
  have hrange : (0 : Int) ≤ (code.toNat : Int) ∧ (code.toNat : Int) < UInt32.size :=
    ⟨Int.natCast_nonneg _, Int.ofNat_lt.2 code.toNat_lt⟩
  unfold codeOfJson? Json.ofNat
  simp only [if_pos hrange, Int.toNat_natCast]
  exact congrArg some (UInt32.ofNat_toNat)

/-- The fields of an incident that is written are found again; a missing context is missing. -/
theorem fields?_toJson (i : Incident) :
    Document.fields? ["code", "message", "context"] i.toJson =
      some [some (.ofNat i.code.toNat), some (.str i.message), i.context] := by
  obtain ⟨code, message, context⟩ := i
  cases context <;> rfl

/-- Reading goes by the fields alone. -/
theorem ofJson?_of_fields {value code message : Json} {context : Option Json}
    (h : Document.fields? ["code", "message", "context"] value =
      some [some code, some message, context]) :
    ofJson? value = (codeOfJson? code).bind fun code => (Document.text? message).bind fun message =>
      some { code, message, context := contextOfJson context } := by
  unfold ofJson?
  rw [h]
  rfl

theorem ofJson?_toJson (i : Incident) :
    ofJson? i.toJson = some { i with context := contextOfJson i.context } := by
  rw [ofJson?_of_fields (fields?_toJson i), codeOfJson?_ofNat]
  rfl

theorem contextOfJson_eq_self_iff (context : Option Json) :
    contextOfJson context = context ↔ context ≠ some .null := by
  unfold contextOfJson
  split <;> simp_all

theorem ofJson?_toJson_eq_iff (i : Incident) :
    ofJson? i.toJson = some i ↔ i.context ≠ some .null := by
  rw [ofJson?_toJson, ← contextOfJson_eq_self_iff]
  obtain ⟨code, message, context⟩ := i
  simp

/-- Two incidents are not written alike: what is lost is lost in reading. -/
theorem toJson_injective {i j : Incident} (h : i.toJson = j.toJson) : i = j := by
  have hfields := congrArg (Document.fields? ["code", "message", "context"]) h
  rw [fields?_toJson, fields?_toJson] at hfields
  obtain ⟨code, message, context⟩ := i
  obtain ⟨code', message', context'⟩ := j
  simp only [Option.some.injEq, List.cons.injEq, Json.str.injEq, and_true] at hfields
  obtain ⟨hcode, hmessage, hcontext⟩ := hfields
  have hread := congrArg codeOfJson? hcode
  rw [codeOfJson?_ofNat, codeOfJson?_ofNat, Option.some.injEq] at hread
  rw [hread, hmessage, hcontext]

/-- **Only a context of null is lost**: an incident is read back as it was exactly if its context is
not null, and otherwise without a context.  No two incidents are written alike, so that a context of
null could be told from none. -/
theorem read_back_iff (i : Incident) :
    (ofJson? i.toJson = some i ↔ i.context ≠ some .null) ∧
    (i.context = some .null → ofJson? i.toJson = some { i with context := none }) ∧
    ∀ j : Incident, i.toJson = j.toJson → i = j := by
  refine ⟨ofJson?_toJson_eq_iff i, ?_, fun j h => toJson_injective h⟩
  intro hnull
  rw [ofJson?_toJson, hnull]
  rfl

/-- The incident of a failed request, with an answer and with one that is null. -/
theorem read_back_of_request :
    let i := ofCatalog .builtin 0
    let answer := Json.obj [("status", .ofNat 500), ("responseText", .null)]
    ofJson? (i.withContext answer).toJson = some (i.withContext answer) ∧
      ofJson? (i.withContext .null).toJson = some i := by
  intro i answer
  constructor
  · exact (read_back_iff (i.withContext answer)).1.2 (by simp [withContext, answer])
  · exact (read_back_iff (i.withContext .null)).2.1 rfl

/-- A context of null is written, but it is gone when the text is read. -/
theorem null_context_lost :
    ((ofCatalog .builtin 0).withContext .null).toJson.render =
        "\x7b\"code\":0,\"message\":\"ajax failure\",\"context\":null\x7d" ∧
      (Json.parse? ((ofCatalog .builtin 0).withContext .null).toJson.render).bind ofJson? ≠
        some ((ofCatalog .builtin 0).withContext .null) := by
  have hrender : ((ofCatalog .builtin 0).withContext .null).toJson.render =
      "\x7b\"code\":0,\"message\":\"ajax failure\",\"context\":null\x7d" := by
    decide +kernel
  have hparse : Json.parse?
      "\x7b\"code\":0,\"message\":\"ajax failure\",\"context\":null\x7d" =
        some (.obj [("code", .ofNat 0), ("context", .null), ("message", .str "ajax failure")]) :=
    Json.parse?_eq_some.2 ⟨.obj [("code".toList, .num ⟨false, ['0'], none, none⟩),
      ("message".toList, .str "ajax failure".toList), ("context".toList, .null)], rfl, rfl⟩
  have hread : ofJson? (.obj [("code", .ofNat 0), ("context", .null),
      ("message", .str "ajax failure")]) = some (ofCatalog .builtin 0) :=
    rfl
  refine ⟨hrender, ?_⟩
  rw [hrender, hparse, Option.bind_some, hread, Ne, Option.some.injEq]
  intro h
  cases congrArg context h

end PluginKit.Incident
