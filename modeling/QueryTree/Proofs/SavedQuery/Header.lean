import QueryTree.Proofs.SavedQuery.Import

/-! The header of a document goes before its query. Two documents that differ in their queries only
have the same header, so a fault of the header is reported for both, whatever the queries are. A
document without such a fault is imported or refused for its query alone.
-/

namespace QueryTree

/-- A fault of the type, the version or the rowset of a document. -/
def ImportFault.OfHeader : ImportFault → Prop
  | .invalidDocument _ | .unsupportedVersion _ | .unknownRowset _ => True
  | .unreadable _ | .refused _ => False

namespace SavedQuery

open Json (Draft Reader RecordField RecordShape)

-----------------------------------------------------------------------------------------
-- What documents with different queries share
-----------------------------------------------------------------------------------------

/-- What an envelope says apart from its query. -/
def Envelope.header (envelope : Envelope) : Envelope :=
  { envelope with query := .null }

/-- Two texts that say the same but for their queries. -/
def SameButQuery (text other : String) : Prop :=
  Envelope.shape.without "query" (Draft.ofText text).root
    = Envelope.shape.without "query" (Draft.ofText other).root

/-- The query is put into its own part of the envelope, and no other field touches it. -/
theorem detaches_header {field : RecordField Envelope} (present : field ∈ Envelope.shape.fields)
    : field.Detaches "query" Envelope.header := by
  simp only [Envelope.shape, List.mem_cons, List.not_mem_nil, or_false] at present
  rcases present with rfl | rfl | rfl | rfl | rfl
  · exact RecordField.detaches_omittable (by decide) fun _ _ => rfl
  · exact RecordField.detaches_omittable (by decide) fun _ _ => rfl
  · exact RecordField.detaches_omittable (by decide) fun _ _ => rfl
  · have null : Reader.value fieldNestingLimit .null = .ok .null := rfl
    exact RecordField.detaches_self null (fun _ => rfl) fun _ _ => rfl
  · exact RecordField.detaches_omittable (by decide) fun _ _ => rfl

/-- The header is read from what is left without the query, so texts that say the same but for it
have one header.
-/
theorem SameButQuery.header_eq {text other : String} (same : SameButQuery text other)
    {envelope second : Envelope} (read : Reader.ofText Envelope.shape.read text = .ok envelope)
    (again : Reader.ofText Envelope.shape.read other = .ok second)
    : envelope.header = second.header := by
  have left := RecordShape.read_without rfl (fun _ => detaches_header) (Reader.read_of_ofText read)
  have right
    := RecordShape.read_without rfl (fun _ => detaches_header) (Reader.read_of_ofText again)
  rw [show _ = _ from same, right] at left
  exact (Except.ok.inj left).symm

-----------------------------------------------------------------------------------------
-- What a header is refused for
-----------------------------------------------------------------------------------------

/-- The header says another type than that of saved queries, a version newer than the one that is
known, or a rowset that is no type of the schema.
-/
def Envelope.Faulty (schema : Schema) (envelope : Envelope) : Prop :=
  envelope.documentType ≠ some "explorer-schema"
  ∨ (∃ version, envelope.version = some version ∧ 1 < version)
  ∨ envelope.rowset.getD "" ∉ schema.names

/-- The fault that a header is refused for: the type goes before the version, and the version
before the rowset.
-/
inductive Envelope.HeaderFault (schema : Schema) (envelope : Envelope) : ImportFault → Prop
  | documentType (wrong : envelope.documentType ≠ some "explorer-schema")
    : HeaderFault schema envelope (.invalidDocument envelope.documentType)
  | version {version : Nat} (right : envelope.documentType = some "explorer-schema")
    (given : envelope.version = some version) (newer : 1 < version)
    : HeaderFault schema envelope (.unsupportedVersion version)
  | rowset (right : envelope.documentType = some "explorer-schema")
    (known : ∀ version, envelope.version = some version → version ≤ 1)
    (absent : envelope.rowset.getD "" ∉ schema.names)
    : HeaderFault schema envelope (.unknownRowset (envelope.rowset.getD ""))

/-- The import checks the header for exactly these faults. -/
theorem headerFault?_eq_some {schema : Schema} {envelope : Envelope} {fault : ImportFault}
    : envelope.headerFault? schema = some fault ↔ envelope.HeaderFault schema fault := by
  rw [Envelope.headerFault?, show SavedQuery.documentType = "explorer-schema" from rfl]
  constructor
  · intro found
    split at found
    · rename_i wrong
      cases found
      exact .documentType wrong
    rename_i type
    have right : envelope.documentType = some "explorer-schema" := Decidable.not_not.mp type
    split at found
    · rename_i version supplied
      obtain ⟨given, newer⟩ := Option.filter_eq_some_iff.mp supplied
      cases found
      exact .version right given (of_decide_eq_true newer)
    rename_i supplied
    dsimp only at found
    split at found
    · cases found
    rename_i absent
    cases found
    refine .rowset right (fun version given => ?_) (fun present => absent ?_)
    · have old := Option.filter_eq_none_iff.mp supplied version given
      exact Nat.le_of_not_lt fun newer => old (decide_eq_true newer)
    · exact NameMap.contains_iff.mpr present
  · intro fault
    cases fault with
    | documentType wrong => rw [if_pos wrong]
    | @version version right given newer =>
        have supplied
            : (envelope.version.filter fun version => SavedQuery.version < version)
              = some version :=
          Option.filter_eq_some_iff.mpr ⟨given, decide_eq_true newer⟩
        rw [if_neg (not_not.mpr right), supplied]
    | rowset right known absent =>
        have supplied
            : (envelope.version.filter fun version => SavedQuery.version < version) = none := by
          refine Option.filter_eq_none_iff.mpr fun version given newer => ?_
          have old := known version given
          exact absurd (of_decide_eq_true newer) (Nat.not_lt.mpr old)
        have missing : schema.contains (envelope.rowset.getD "") = false := by
          rw [Bool.eq_false_iff]
          exact fun there => absent (NameMap.contains_iff.mp there)
        rw [if_neg (not_not.mpr right), supplied]
        simp [missing]

/-- The check does not look at the query, and neither do the conditions it checks for. -/
theorem headerFault?_header (envelope : Envelope) (schema : Schema)
    : envelope.header.headerFault? schema = envelope.headerFault? schema :=
  rfl

theorem faulty_header {envelope : Envelope} {schema : Schema}
    : envelope.header.Faulty schema ↔ envelope.Faulty schema :=
  Iff.rfl

/-- A header is faulty if it is refused for one of these faults. -/
theorem faulty_iff {schema : Schema} {envelope : Envelope}
    : envelope.Faulty schema ↔ ∃ fault, envelope.HeaderFault schema fault := by
  constructor
  · intro faulty
    by_cases right : envelope.documentType = some "explorer-schema"
    · by_cases late : ∃ version, envelope.version = some version ∧ 1 < version
      · obtain ⟨version, given, newer⟩ := late
        exact ⟨_, .version right given newer⟩
      · have known version (given : envelope.version = some version) : version ≤ 1 :=
          Nat.le_of_not_lt fun newer => late ⟨version, given, newer⟩
        rcases faulty with wrong | newer | absent
        · exact absurd right wrong
        · exact absurd newer late
        · exact ⟨_, .rowset right known absent⟩
    · exact ⟨_, .documentType right⟩
  · intro ⟨fault, refused⟩
    cases refused with
    | documentType wrong => exact .inl wrong
    | version right given newer => exact .inr (.inl ⟨_, given, newer⟩)
    | rowset right known absent => exact .inr (.inr absent)

-----------------------------------------------------------------------------------------
-- What the import of one document depends on
-----------------------------------------------------------------------------------------

/-- An import that is decided by the query of the document: it does not end at a fault of the
header, and it succeeds just if the query is an expression that compiles for the rowset, with that
rowset, that expression, the aggregation of the document and no description.
-/
structure DecidedByQuery (compiler : Compiler) (rowset : String)
    (aggregation : Option Aggregation) (query : Json) (outcome : Except ImportFault SavedQuery)
    : Prop where
  pastHeader : ∀ fault, outcome = .error fault → ¬fault.OfHeader
  accepted
    : ∀ saved,
        outcome = .ok saved
        ↔ ∃ expression code,
            Expression.ofJson query = .ok expression
            ∧ compiler.generateForType rowset validationSubject expression = .ok code
            ∧ saved = ⟨none, rowset, expression, aggregation⟩

/-- A faulty header is what an import ends at. -/
theorem ofText_of_headerFault {compiler : Compiler} {text : String} {envelope : Envelope}
    (read : Reader.ofText Envelope.shape.read text = .ok envelope) {fault : ImportFault}
    (refused : envelope.HeaderFault compiler.schema fault)
    : ofText compiler text = .error fault := by
  rw [ofText, read]
  simp only [ofEnvelope, headerFault?_eq_some.mpr refused]

/-- Past the header, an import is decided by the query. -/
theorem decidedByQuery_of_not_faulty {compiler : Compiler} {text : String} {envelope : Envelope}
    (read : Reader.ofText Envelope.shape.read text = .ok envelope)
    (sound : ¬envelope.Faulty compiler.schema)
    : DecidedByQuery compiler (envelope.rowset.getD "") envelope.aggregation envelope.query
        (ofText compiler text) := by
  have passed : envelope.headerFault? compiler.schema = none := by
    rw [Option.eq_none_iff_forall_ne_some]
    intro fault refused
    exact sound (faulty_iff.mpr ⟨fault, headerFault?_eq_some.mp refused⟩)
  have begun : ofText compiler text = ofEnvelope envelope compiler := by rw [ofText, read]
  rw [begun]
  constructor
  · intro fault failed
    simp only [ofEnvelope, passed] at failed
    split at failed
    · cases failed
      exact id
    · cases failed
      exact id
    · split at failed
      · cases failed
        exact id
      · cases failed
  · intro saved
    constructor
    · intro imported
      have imports := imports_of_ofEnvelope imported
      obtain ⟨code, compiled⟩ := imports.compiles
      rw [imports.rowset] at compiled
      refine ⟨saved.query, code, imports.decoded, compiled, ?_⟩
      rw [← imports.described, ← imports.rowset, ← imports.aggregated]
    · intro settled
      obtain ⟨expression, code, decoded, compiled, same⟩ := settled
      simp only [ofEnvelope, passed, decoded, compiled, same]

-----------------------------------------------------------------------------------------
-- The header decides first
-----------------------------------------------------------------------------------------

/-- The header goes before the query. Of two texts that say the same but for their queries, and that
both are read, both are refused for the fault of their header where it has one; where it has none,
each is imported or refused for its own query.
-/
theorem header_goes_before_query (compiler : Compiler) {text other : String}
    {envelope second : Envelope} (read : Reader.ofText Envelope.shape.read text = .ok envelope)
    (again : Reader.ofText Envelope.shape.read other = .ok second)
    (same : SameButQuery text other)
    : (envelope.Faulty compiler.schema
        → ∃ fault,
            envelope.HeaderFault compiler.schema fault
            ∧ ofText compiler text = .error fault
            ∧ ofText compiler other = .error fault)
      ∧ (¬envelope.Faulty compiler.schema
        → DecidedByQuery compiler (envelope.rowset.getD "") envelope.aggregation envelope.query
            (ofText compiler text)
          ∧ DecidedByQuery compiler (envelope.rowset.getD "") envelope.aggregation second.query
              (ofText compiler other)) := by
  have header := same.header_eq read again
  constructor
  · intro faulty
    obtain ⟨fault, refused⟩ := faulty_iff.mp faulty
    have checked := headerFault?_eq_some.mpr refused
    rw [← headerFault?_header, header, headerFault?_header] at checked
    exact ⟨fault, refused, ofText_of_headerFault read refused,
      ofText_of_headerFault again (headerFault?_eq_some.mp checked)⟩
  · intro sound
    have alike : second.Faulty compiler.schema ↔ envelope.Faulty compiler.schema := by
      rw [← faulty_header, ← header, faulty_header]
    obtain ⟨_, _, rowset, _, aggregation⟩ := Envelope.mk.inj header
    refine ⟨decidedByQuery_of_not_faulty read sound, ?_⟩
    rw [rowset, aggregation]
    exact decidedByQuery_of_not_faulty again fun wrong => sound (alike.mp wrong)

/-- A document of a later version with a given query. -/
def laterText (query : String) : String :=
  "\x7b\"$type\":\"explorer-schema\",\"$version\":2,\"query\":" ++ query ++ "\x7d"

/-- The later version is reported for a node without a kind and for a number in the place of one. -/
theorem later_version_before_query
    : ofText devicesCompiler (laterText "\x7b\x7d") = .error (.unsupportedVersion 2)
      ∧ ofText devicesCompiler (laterText "7") = .error (.unsupportedVersion 2) := by
  have nodeScanned
      : Json.tokens (laterText "\x7b\x7d").toList
        = [.openObject, .string (some "$type"), .colon, .string (some "explorer-schema"), .comma,
            .string (some "$version"), .colon, .number (some (.integer 2)), .comma,
            .string (some "query"), .colon, .openObject, .closeObject, .closeObject] := by
    set_option maxRecDepth 20000 in rfl
  have numberScanned
      : Json.tokens (laterText "7").toList
        = [.openObject, .string (some "$type"), .colon, .string (some "explorer-schema"), .comma,
            .string (some "$version"), .colon, .number (some (.integer 2)), .comma,
            .string (some "query"), .colon, .number (some (.integer 7)), .closeObject] := by
    set_option maxRecDepth 20000 in rfl
  have read
      : Reader.ofText Envelope.shape.read (laterText "\x7b\x7d")
        = .ok ⟨some documentType, some 2, none, .object [], none⟩ := by
    unfold Reader.ofText Draft.ofText
    rw [nodeScanned]
    rfl
  have again
      : Reader.ofText Envelope.shape.read (laterText "7")
        = .ok ⟨some documentType, some 2, none, .number (.integer 7), none⟩ := by
    unfold Reader.ofText Draft.ofText
    rw [numberScanned]
    rfl
  have same : SameButQuery (laterText "\x7b\x7d") (laterText "7") := by
    unfold SameButQuery Draft.ofText
    rw [nodeScanned, numberScanned]
    rfl
  have newer : ∃ version, some 2 = some version ∧ 1 < version := ⟨2, rfl, Nat.one_lt_two⟩
  obtain ⟨fault, refused, first, second⟩ :=
    (header_goes_before_query devicesCompiler read again same).1 (.inr (.inl newer))
  cases refused with
  | documentType wrong => exact absurd rfl wrong
  | version right given newer =>
      cases given
      exact ⟨first, second⟩
  | rowset right known absent => exact absurd (known 2 rfl) (Nat.not_le.mpr Nat.one_lt_two)

end SavedQuery

end QueryTree
