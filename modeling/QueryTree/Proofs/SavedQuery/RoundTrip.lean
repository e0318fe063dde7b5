import QueryTree.Proofs.Compile.Subject
import QueryTree.Proofs.Expression.Decoding
import QueryTree.Proofs.Expression.Encoding
import QueryTree.Proofs.Json.Layout
import QueryTree.Proofs.Result.Aggregation
import QueryTree.SavedQuery.Import

/-! Importing what was exported. A query that compiles is read back from its export, but for its
description, exactly if the export nests within what the reader of texts allows. How deep an export
nests is counted in brackets, how deep an expression may nest is counted in nodes, and the two
limits do not agree.
-/

namespace QueryTree

namespace SavedQuery

open Json (Reader RecordShape)

/-- How deep an export may be nested for the reader of texts, the envelope included. -/
def fits (saved : SavedQuery) : Prop :=
  saved.query.brackets + 1 ≤ Json.nestingLimit

instance (saved : SavedQuery) : Decidable saved.fits :=
  inferInstanceAs (Decidable (_ ≤ _))

/-- The version is written as it is read, as everything else in an export is. -/
theorem canonical_version : (Json.ofNat version).Canonical := by
  refine .number fun before tail marked => ?_
  cases marked with
  | done => rfl
  | mark mark =>
      simp only [List.mem_cons, List.not_mem_nil, or_false] at mark
      rcases mark with rfl | rfl | rfl | rfl <;> rfl

/-- The field of the aggregation, the only one that an export may be without. -/
def aggregationField (saved : SavedQuery) : List (String × Json) :=
  saved.aggregation.toList.map fun aggregation => ("aggregation", aggregation.toJson)

theorem toJson_eq (saved : SavedQuery)
    : saved.toJson
      = .object
          (("$type", .string documentType) :: ("$version", .ofNat version)
            :: ("rowset", .string saved.objectType) :: ("query", saved.query.toJson)
            :: saved.aggregationField) := by
  unfold toJson aggregationField
  cases saved.aggregation <;> rfl

theorem canonical_toJson (saved : SavedQuery) : saved.toJson.Canonical := by
  have aggregated : ∀ field ∈ saved.aggregationField, field.2.Canonical :=
    List.forall_mem_map.mpr fun aggregation _ => aggregation.stores.canonical
  rw [toJson_eq]
  refine .object ?_ ?_
  · simp only [List.forall_mem_cons]
    exact ⟨.string, canonical_version, .string, saved.query.canonical_toJson, aggregated⟩
  · unfold aggregationField
    cases saved.aggregation <;> simp

/-- An import sees no difference between the layouts, since it reads the same fields in both. A text
that is nested too deeply is refused in both. The error of the reader also says in which line and
column it stopped, which do differ; a fault leaves them out.
-/
theorem ofText_exportText_layout (saved : SavedQuery) (compiler : Compiler)
    (first second : Json.Layout)
    : ofText compiler (saved.exportText first) = ofText compiler (saved.exportText second) := by
  have read (layout : Json.Layout)
      : Reader.ofText Envelope.shape.read (saved.exportText layout)
        = Envelope.shape.read saved.toJson.toDraft :=
    Reader.ofText_write _ saved.canonical_toJson layout
  rw [ofText, ofText, read, read]

/-- Of every saved query, the indented export is the compact one but for blanks outside strings, and
both are imported alike, or refused for the same reason, by every compiler.
-/
theorem exports_differ_in_blanks_only (saved : SavedQuery)
    : Json.withoutBlanks (saved.exportText .indented) = saved.exportText .compact
      ∧ ∀ compiler,
          ofText compiler (saved.exportText .indented)
          = ofText compiler (saved.exportText .compact) := by
  constructor
  · exact Json.withoutBlanks_write saved.canonical_toJson
  · intro compiler
    exact saved.ofText_exportText_layout compiler .indented .compact

/-- The fields of an exported document, as an envelope. -/
def envelope (saved : SavedQuery) : Envelope :=
  ⟨some documentType, some version, some saved.objectType, saved.query.toJson, saved.aggregation⟩

/-- The query of an exported document is read back exactly if the document fits. -/
theorem value_query (saved : SavedQuery)
    : Reader.value fieldNestingLimit saved.query.toJson.toDraft
      = if saved.fits then .ok saved.query.toJson else .error .malformed := by
  have limits : saved.query.toJson.height ≤ fieldNestingLimit ↔ saved.fits := by
    rw [Expression.height_toJson, fits, fieldNestingLimit, Json.nestingLimit]
    omega
  unfold Reader.value
  rw [Json.value?_toDraft saved.query.canonical_toJson]
  by_cases within : saved.fits
  · rw [if_pos (limits.mpr within), if_pos within]
  · rw [if_neg (mt limits.mp within), if_neg within]

/-- An export that fits holds its envelope field by field. -/
theorem stores_envelope {saved : SavedQuery} (within : saved.fits)
    : Envelope.shape.Stores saved.toJson saved.envelope := by
  have query := saved.value_query
  rw [if_pos within] at query
  rw [toJson_eq]
  refine .object (by decide) ?_
  refine .omittable .string rfl (.omittable canonical_version rfl (.omittable .string rfl ?_))
  refine .omittable saved.query.canonical_toJson query ?_
  unfold aggregationField envelope
  cases saved.aggregation with
  | none => exact .skip rfl .done
  | some aggregation =>
      have found := congrArg (Except.map some) aggregation.stores.read
      exact .omittable aggregation.stores.canonical found .done

/-- The envelope of an exported document is read back exactly if the document fits. -/
theorem read_toJson (saved : SavedQuery)
    : Envelope.shape.read saved.toJson.toDraft
      = if saved.fits then .ok saved.envelope else .error .malformed := by
  by_cases within : saved.fits
  · rw [if_pos within]
    exact (stores_envelope within).read
  · -- The query is the fourth field, and reading ends there.
    have query := saved.value_query
    rw [if_neg within] at query ⊢
    rw [toJson_eq]
    simp only [Json.toDraft, Json.toDraftFields, Json.toDraftField, RecordShape.read]
    rw [RecordShape.readFields_of_put rfl rfl rfl, RecordShape.readFields_of_put rfl rfl rfl,
      RecordShape.readFields_of_put rfl rfl rfl]
    exact RecordShape.readFields_of_fault rfl rfl (congrArg (Except.map _) query) _ _

theorem headerFault?_envelope {saved : SavedQuery} {schema : Schema}
    (known : schema.contains saved.objectType = true)
    : saved.envelope.headerFault? schema = none := by
  simp [Envelope.headerFault?, envelope, version, known, Option.filter]

/-- Importing an export under a compiler that the query compiles with gives back the query, without
its description, if the export fits; and if it does not, the export is refused as no JSON at all.
The query may have been compiled for any subject, unless functions of the schema look at it.
-/
theorem ofText_exportText {compiler : Compiler} (saved : SavedQuery) {subject code : String}
    (alike : subject = validationSubject ∨ compiler.schema.Blind)
    (compiles
      : compiler.generateForType saved.objectType subject saved.query = .ok code)
    (layout : Json.Layout)
    : ofText compiler (saved.exportText layout)
      = if saved.fits then .ok { saved with description := none }
        else .error (.unreadable .malformed) := by
  obtain ⟨type, _, known, _⟩ := Compiler.generateForType_eq_ok.mp compiles
  have checked
      : ∃ checked,
          compiler.generateForType saved.objectType validationSubject saved.query
          = .ok checked := by
    rcases alike with rfl | blind
    · exact ⟨code, compiles⟩
    · exact Compiler.generateForType_ok blind compiles validationSubject
  obtain ⟨checked, validated⟩ := checked
  unfold ofText exportText
  rw [Reader.ofText_write _ saved.canonical_toJson, saved.read_toJson]
  by_cases within : saved.fits
  · rw [if_pos within, if_pos within]
    have header : saved.envelope.headerFault? compiler.schema = none :=
      headerFault?_envelope (NameMap.contains_of_get? known)
    have decoded := saved.query.ofJson_toJson
    simp only [ofEnvelope, header]
    simp only [envelope, Option.getD_some, decoded, validated]
  · rw [if_neg within, if_neg within]

/-- No node costs more than three brackets, so what compiles nests at most three times as deep as
the nodes that the limit leaves room for, by induction on the expression. Plain relationships look
at their queries, so nothing is nested that was not counted.
-/
theorem brackets_le_of_node {compiler : Compiler} (plain : compiler.schema.Plain)
    {type : ObjectType} (plainType : type.Plain) {subject : Term} {depth : Nat}
    {expression : Expression} {term : Term}
    (compiled : compiler.node type subject depth expression = .ok term)
    : expression.brackets ≤ 3 * (compiler.maxDepth + 1 - depth) := by
  have shallow := (Compiler.node_eq_ok.mp compiled).1
  induction expression generalizing type subject depth term with
  | boolean combiner members ih =>
      cases (Compiler.node_eq_ok.mp compiled).2 with
      | boolean nonempty each =>
          have below : Expression.memberBrackets members ≤ 3 * (compiler.maxDepth - depth) := by
            refine Expression.memberBrackets_le_iff.mpr fun member present => ?_
            obtain ⟨inner, _, done⟩ := exists_of_mem_forall₂ each.flip present
            have bound := ih member present plainType done (Compiler.node_eq_ok.mp done).1
            omega
          rw [Expression.brackets]
          omega
  | property id operator operand =>
      rw [Expression.brackets]
      omega
  | relationship negated id query ih =>
      cases (Compiler.node_eq_ok.mp compiled).2 with
      | existing found =>
          rw [Expression.brackets, Expression.queryBrackets]
          omega
      | matching found known wraps holds =>
          have bound := ih _ rfl (plain.of_require known) holds (Compiler.node_eq_ok.mp holds).1
          rw [Expression.brackets, Expression.queryBrackets]
          omega
      | written found _ free => exact absurd free (plainType.wrapping?_ne_none found _)
  | name operator operand =>
      rw [Expression.brackets]
      omega
  | insight negated badge =>
      rw [Expression.brackets]
      omega
  | typeSwitch arms ih =>
      cases (Compiler.node_eq_ok.mp compiled).2 with
      | typeSwitch nonempty each =>
          -- An arm costs a bracket of its own, which is the third one of the type switch.
          have below : Expression.armsBrackets arms ≤ 3 * (compiler.maxDepth - depth) + 1 := by
            refine Expression.armsBrackets_le_iff.mpr fun arm present => ?_
            obtain ⟨target, _, done⟩ := exists_of_mem_forall₂ each.flip present
            cases done with
            | always found =>
                rw [Expression.armBrackets, Expression.queryBrackets]
                omega
            | guarded found holds =>
                have bound := ih _ _ present (plain.of_require found) holds
                  (Compiler.node_eq_ok.mp holds).1
                rw [Expression.armBrackets, Expression.queryBrackets]
                omega
          rw [Expression.brackets]
          omega

/-- Up to a limit of 42 nodes the two limits agree: over the schema of a document, the export of
whatever compiles fits.
-/
theorem fits_of_generateForType {document : SchemaDocument} {compiler : Compiler}
    (valid : document.toSchema = .ok compiler.schema) (low : compiler.maxDepth ≤ 42)
    {saved : SavedQuery} {subject code : String}
    (compiles : compiler.generateForType saved.objectType subject saved.query = .ok code)
    : saved.fits := by
  have plain := SchemaDocument.plain_of_toSchema valid
  obtain ⟨type, term, known, compiled, _⟩ := Compiler.generateForType_eq_ok.mp compiles
  have bound := brackets_le_of_node plain (plain _ _ known) compiled
  rw [fits, Json.nestingLimit]
  omega

/-- A test inside so many groups of one member each. -/
def inGroups (test : Expression) : Nat → Expression
  | 0 => test
  | count + 1 => .boolean .and [inGroups test count]

theorem brackets_inGroups (test : Expression) (count : Nat)
    : (inGroups test count).brackets = test.brackets + 2 * count := by
  induction count with
  | zero => rfl
  | succ count ih =>
      simp only [inGroups, Expression.brackets, Expression.memberBrackets, ih]
      omega

/-- Every group around a test costs one node, by induction on their number: a test that compiles at
all depths compiles inside as many groups as the limit leaves room for.
-/
theorem node_inGroups {compiler : Compiler} {type : ObjectType} {subject : Term} {test : Expression}
    (compiles
      : ∀ depth, depth ≤ compiler.maxDepth →
          ∃ term, compiler.node type subject depth test = .ok term)
    (count depth : Nat) (room : depth + count ≤ compiler.maxDepth)
    : ∃ term, compiler.node type subject depth (inGroups test count) = .ok term := by
  induction count generalizing depth with
  | zero => exact compiles depth room
  | succ count ih =>
      obtain ⟨term, inner⟩ := ih (depth + 1) (by omega)
      exact ⟨_, Compiler.node_eq_ok.mpr ⟨by omega, .boolean (by simp) (.cons inner .nil)⟩⟩

/-- The compiler for devices with the limit that is used where nothing else is said. -/
def devicesCompiler : Compiler :=
  ⟨SchemaDocument.devicesSchema, defaultMaxDepth⟩

/-- A query for the devices of a name, the test of the name inside so many groups. -/
def devicesNamed (count : Nat) : SavedQuery :=
  ⟨none, "Device", inGroups (.name .equal "core") count, none⟩

/-- With the limit that is used where nothing else is said, a test inside 62 groups can be read back
from its export; inside 63 groups it still compiles, but its export is refused in both layouts.
-/
theorem devicesNamed_reloads_up_to_the_limit
    : devicesCompiler.schema.Blind
      ∧ (∃ code,
        devicesCompiler.generateForType "Device" defaultSubject (devicesNamed 62).query = .ok code
        ∧ ∀ layout,
            ofText devicesCompiler ((devicesNamed 62).exportText layout) = .ok (devicesNamed 62))
      ∧ ∃ code,
          devicesCompiler.generateForType "Device" defaultSubject (devicesNamed 63).query = .ok code
          ∧ ∀ layout,
              ofText devicesCompiler ((devicesNamed 63).exportText layout)
              = .error (.unreadable .malformed) := by
  have blind : devicesCompiler.schema.Blind :=
    (SchemaDocument.plain_of_toSchema SchemaDocument.devices_toSchema).blind
  have named (depth : Nat) (shallow : depth ≤ devicesCompiler.maxDepth)
      : ∃ term,
          devicesCompiler.node SchemaDocument.deviceEntry.toObjectType (.name defaultSubject) depth
            (.name .equal "core")
          = .ok term :=
    ⟨_, Compiler.node_eq_ok.mpr ⟨shallow, .name rfl rfl rfl⟩⟩
  have generated (count : Nat) (room : 1 + count ≤ devicesCompiler.maxDepth)
      : ∃ code,
          devicesCompiler.generateForType "Device" defaultSubject (devicesNamed count).query
          = .ok code := by
    obtain ⟨term, compiled⟩ := node_inGroups named count 1 room
    exact ⟨_, Compiler.generateForType_eq_ok.mpr ⟨_, term, rfl, compiled, rfl⟩⟩
  refine ⟨blind, ?_, ?_⟩
  · obtain ⟨code, compiles⟩ := generated 62 (by decide)
    have short : (devicesNamed 62).fits := by
      rw [fits, devicesNamed, brackets_inGroups]
      decide
    refine ⟨code, compiles, fun layout => ?_⟩
    rw [ofText_exportText (devicesNamed 62) (.inr blind) compiles layout, if_pos short]
    rfl
  · obtain ⟨code, compiles⟩ := generated 63 (by decide)
    have long : ¬(devicesNamed 63).fits := by
      rw [fits, devicesNamed, brackets_inGroups]
      decide
    refine ⟨code, compiles, fun layout => ?_⟩
    rw [ofText_exportText (devicesNamed 63) (.inr blind) compiles layout, if_neg long]

end SavedQuery

end QueryTree
