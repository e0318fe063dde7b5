import QueryTree.Proofs.Expression.Spelling
import QueryTree.Proofs.SavedQuery.RoundTrip

/-! Importing is normalizing. Many texts spell one saved query, and its export is the one of them
that importing and exporting leave as it is.
-/

namespace QueryTree.SavedQuery

open Json (Reader RecordField RecordShape)

/-- What an envelope must be for a query to be imported from it. -/
structure Imports (compiler : Compiler) (envelope : Envelope) (saved : SavedQuery) : Prop where
  accepted : envelope.headerFault? compiler.schema = none
  decoded : Expression.ofJson envelope.query = .ok saved.query
  compiles
    : ∃ code,
        compiler.generateForType saved.objectType validationSubject saved.query = .ok code
  described : saved.description = none
  rowset : saved.objectType = envelope.rowset.getD ""
  aggregated : saved.aggregation = envelope.aggregation

/-- Every step that an import may end at is ruled out in turn; the last of them is the compilation.
-/
theorem imports_of_ofEnvelope {compiler : Compiler} {envelope : Envelope} {saved : SavedQuery}
    (imported : ofEnvelope envelope compiler = .ok saved)
    : Imports compiler envelope saved := by
  unfold ofEnvelope at imported
  split at imported
  · cases imported
  rename_i accepted
  dsimp only at imported
  split at imported
  · cases imported
  · cases imported
  rename_i query decoded
  split at imported
  · cases imported
  rename_i code compiled
  obtain rfl := Except.ok.inj imported
  exact ⟨accepted, decoded, ⟨code, compiled⟩, rfl, rfl, rfl⟩

theorem exists_envelope_of_ofText {compiler : Compiler} {text : String} {saved : SavedQuery}
    (imported : ofText compiler text = .ok saved)
    : ∃ envelope draft,
        Envelope.shape.read draft = .ok envelope ∧ Imports compiler envelope saved := by
  unfold ofText at imported
  split at imported
  · cases imported
  · rename_i envelope read
    exact ⟨envelope, _, Reader.read_of_ofText read, imports_of_ofEnvelope imported⟩

/-- The query of the envelope nests within what one level around it leaves. -/
def Envelope.Shallow (envelope : Envelope) : Prop :=
  envelope.query.height ≤ fieldNestingLimit

/-- Whatever fields an envelope is read from, it is shallow. -/
theorem shallow_of_read {draft : Json.Draft} {envelope : Envelope}
    (read : Envelope.shape.read draft = .ok envelope)
    : envelope.Shallow := by
  have blank : Envelope.shape.blank.Shallow := Nat.zero_le _
  refine RecordShape.read_preserves blank (fun field present => ?_) read
  simp only [Envelope.shape, List.mem_cons, List.not_mem_nil, or_false] at present
  rcases present with rfl | rfl | rfl | rfl | rfl
  · exact RecordField.keeps_omittable fun _ _ _ _ before => before
  · exact RecordField.keeps_omittable fun _ _ _ _ before => before
  · exact RecordField.keeps_omittable fun _ _ _ _ before => before
  · refine RecordField.keeps_omittable fun _ _ found _ _ => ?_
    unfold Reader.value at found
    split at found
    · rename_i query inner
      obtain rfl := Except.ok.inj found
      exact Json.height_le_of_value? _ inner
    · cases found
  · exact RecordField.keeps_omittable fun _ _ _ _ before => before

/-- An imported query fits into its export: it was read from no fewer brackets. -/
theorem fits_of_ofText {compiler : Compiler} {text : String} {saved : SavedQuery}
    (imported : ofText compiler text = .ok saved)
    : saved.fits := by
  obtain ⟨envelope, draft, read, imports⟩ := exists_envelope_of_ofText imported
  have room := shallow_of_read read
  have below := Expression.brackets_le_of_ofJson imports.decoded
  rw [Envelope.Shallow, fieldNestingLimit, Json.nestingLimit] at room
  rw [fits, Json.nestingLimit]
  omega

/-- An export that fits is imported, without its description, if its query compiles; and otherwise
it is refused for the fault of the compilation.
-/
theorem ofText_of_fits {compiler : Compiler} {saved : SavedQuery}
    (known : compiler.schema.contains saved.objectType = true) (within : saved.fits)
    (layout : Json.Layout)
    : ofText compiler (saved.exportText layout)
      = match compiler.generateForType saved.objectType validationSubject saved.query with
        | .error fault => .error (.refused fault)
        | .ok _ => .ok { saved with description := none } := by
  have header : saved.envelope.headerFault? compiler.schema = none := headerFault?_envelope known
  have decoded := saved.query.ofJson_toJson
  unfold ofText exportText
  rw [Reader.ofText_write _ saved.canonical_toJson, saved.read_toJson, if_pos within]
  simp only [ofEnvelope, header]
  cases outcome : compiler.generateForType saved.objectType validationSubject saved.query with
  | error fault => simp only [envelope, Option.getD_some, decoded, outcome]
  | ok code => simp only [envelope, Option.getD_some, decoded, outcome]

/-- Importing normalizes to a fixed point: in either layout, what was imported is exported to a text
that is imported back to the same query, so exporting it again gives that text once more.
-/
theorem import_normalizes {compiler : Compiler} {text : String} {saved : SavedQuery}
    (imported : ofText compiler text = .ok saved) (layout : Json.Layout)
    : ofText compiler (saved.exportText layout) = .ok saved
      ∧ (ofText compiler (saved.exportText layout)).map (fun again => again.exportText layout)
        = .ok (saved.exportText layout) := by
  obtain ⟨envelope, _, _, imports⟩ := exists_envelope_of_ofText imported
  obtain ⟨code, compiled⟩ := imports.compiles
  obtain ⟨type, _, known, _⟩ := Compiler.generateForType_eq_ok.mp compiled
  have plain : { saved with description := none } = saved := by
    rw [← imports.described]
  have again : ofText compiler (saved.exportText layout) = .ok saved := by
    rw [ofText_of_fits (NameMap.contains_of_get? known) (fits_of_ofText imported) layout,
      compiled]
    exact congrArg Except.ok plain
  refine ⟨again, ?_⟩
  rw [again]
  rfl

/-- A query for the devices named core, its envelope written as a list and without a version, the
kind of its test twice, of which the last one counts, and the operator as an object.
-/
def coreText : String :=
  "[\"explorer-schema\",null,\"Device\",\x7b\"type\":\"\",\"operator\":\x7b\"=\":null\x7d,"
    ++ "\"operand\":\"core\",\"type\":\"name\"\x7d]"

/-- The test as a value. -/
def coreTest : Json :=
  .object [("type", .string "name"), ("operator", .object [("=", .null)]),
    ("operand", .string "core")]

theorem core_normalizes
    : ofText devicesCompiler coreText = .ok ⟨none, "Device", .name .equal "core", none⟩
      ∧ ∀ layout,
          ofText devicesCompiler
            (exportText ⟨none, "Device", .name .equal "core", none⟩ layout)
          = .ok ⟨none, "Device", .name .equal "core", none⟩ := by
  have scanned
      : Json.tokens coreText.toList
        = [.openArray, .string (some "explorer-schema"), .comma, .null, .comma,
            .string (some "Device"), .comma, .openObject, .string (some "type"), .colon,
            .string (some ""), .comma, .string (some "operator"), .colon, .openObject,
            .string (some "="), .colon, .null, .closeObject, .comma, .string (some "operand"),
            .colon, .string (some "core"), .comma, .string (some "type"), .colon,
            .string (some "name"), .closeObject, .closeArray] := by
    set_option maxRecDepth 20000 in rfl
  have read
      : Reader.ofText Envelope.shape.read coreText
        = .ok ⟨some documentType, none, some "Device", coreTest, none⟩ := by
    unfold Reader.ofText Json.Draft.ofText
    rw [scanned]
    rfl
  have known : Expression.checkKinds coreTest = .ok () := by
    rw [coreTest, Expression.checkKinds]
    rfl
  have found : Expression.decode? false coreTest = some (.name .equal "core") := by
    refine (Expression.decode?_tagged false .name _).trans ?_
    rw [Expression.decodeNode?]
    rfl
  have decoded : Expression.ofJson coreTest = .ok (.name .equal "core") := by
    rw [Expression.ofJson, known, found]
  have imported
      : ofText devicesCompiler coreText = .ok ⟨none, "Device", .name .equal "core", none⟩ := by
    unfold ofText
    rw [read]
    simp only [ofEnvelope, decoded]
    rfl
  exact ⟨imported, fun layout => (import_normalizes imported layout).1⟩

end QueryTree.SavedQuery
