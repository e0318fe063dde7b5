import QueryTree.Proofs.Code.Balance
import QueryTree.Proofs.Compile.Node
import QueryTree.Proofs.Expression.Induction
import QueryTree.Proofs.Operator.Shape
import QueryTree.Proofs.Schema.Description

/-! Generated code is lexically well formed, whatever the operands and badges of the expression
hold: names are quiet, and what comes from an operand is a literal.
-/

namespace QueryTree

-----------------------------------------------------------------------------------------
-- What is looked up in a schema has a quiet name
-----------------------------------------------------------------------------------------

/-- The types of a schema, and their members, have quiet names. -/
structure Schema.QuietNames (schema : Schema) : Prop where
  types : ∀ entry ∈ schema.entries, Quiet entry.1
  properties : ∀ entry ∈ schema.entries, ∀ property ∈ entry.2.properties, Quiet property.id
  relationships
    : ∀ entry ∈ schema.entries, ∀ relationship ∈ entry.2.relationships, Quiet relationship.id

namespace Schema.QuietNames

variable {schema : Schema} {name id : String} {type : ObjectType}

theorem of_get? (quiet : schema.QuietNames) (known : schema.get? name = some type) : Quiet name :=
  quiet.types (name, type) (NameMap.mem_of_get? known)

theorem of_mem_properties (quiet : schema.QuietNames) (known : schema.get? name = some type)
    {property : Property} (declared : property ∈ type.properties)
    : Quiet property.id :=
  quiet.properties (name, type) (NameMap.mem_of_get? known) property declared

theorem of_property? (quiet : schema.QuietNames) (known : schema.get? name = some type)
    {property : Property} (found : type.property? id = some property)
    : Quiet id := by
  have same : property.id = id := by simpa using List.find?_some found
  exact same ▸ quiet.of_mem_properties known (List.mem_of_find?_eq_some found)

theorem of_relationship? (quiet : schema.QuietNames) (known : schema.get? name = some type)
    {relationship : Relationship} (found : type.relationship? id = some relationship)
    : Quiet relationship.id :=
  quiet.relationships (name, type) (NameMap.mem_of_get? known) relationship
    (List.mem_of_find?_eq_some found)

end Schema.QuietNames

-----------------------------------------------------------------------------------------
-- Terms that operators and tests are made of
-----------------------------------------------------------------------------------------

section terms

open Term (QuietNames)

variable {left right value : Term}

theorem Term.quietNames_text (raw : String) : QuietNames (Term.text raw) :=
  .literal (.string (Text.Quoted.isClosed_body raw.toList))

theorem Term.QuietNames.present (quiet : QuietNames value) : QuietNames (Term.present value) :=
  .not (.not quiet)

theorem Term.quietNames_queryTime : QuietNames Term.queryTime :=
  .call (by decide) (by simp)

theorem Term.QuietNames.daysFromQueryTime (quiet : QuietNames value)
    : QuietNames (Term.daysFromQueryTime value) := by
  apply QuietNames.call (by decide)
  simp only [List.forall_mem_cons]
  exact ⟨quietNames_text "day", quiet, quietNames_queryTime, nofun⟩

theorem Term.QuietNames.pair {combiner : Combiner} (first : QuietNames left)
    (second : QuietNames right)
    : QuietNames (.connect combiner [left, right]) := by
  apply QuietNames.connect
  simp only [List.forall_mem_cons]
  exact ⟨first, second, nofun⟩

theorem OperatorShape.quietNames_signed (quiet : QuietNames value) (negated : Bool)
    : QuietNames (OperatorShape.signed negated value) := by
  cases negated with
  | false => exact quiet
  | true => exact .not quiet

end terms

/-- The symbol or function of a shape that it does not share with all others. -/
def OperatorShape.ownNames : OperatorShape → List String
  | .infixed symbol => [symbol]
  | .call function _ => [function]
  | .withinPast | .beforePast | .withinFuture | .afterFuture | .includes _ => []

theorem Operator.quiet_shape (operator : Operator)
    : ∀ name ∈ operator.shape.ownNames, Quiet name := by
  cases operator <;> decide

/-- An operator adds quiet names to its two sides only, shape by shape. -/
theorem OperatorShape.quietNames_apply {shape : OperatorShape}
    (quiet : ∀ name ∈ shape.ownNames, Quiet name) {left right : Term} (first : left.QuietNames)
    (second : right.QuietNames)
    : (shape.apply left right).QuietNames := by
  have compared {symbol : String} (quiet : Quiet symbol) {other : Term} (names : other.QuietNames)
      : (Term.compare left symbol other).QuietNames :=
    .compare quiet first names
  have past : (Term.daysFromQueryTime (.minus right)).QuietNames := second.minus.daysFromQueryTime
  have future : (Term.daysFromQueryTime right).QuietNames := second.daysFromQueryTime
  cases shape with
  | infixed symbol => exact compared (quiet symbol List.mem_cons_self) second
  | call function negated =>
      apply quietNames_signed
      apply Term.QuietNames.call (quiet function List.mem_cons_self)
      simp only [List.forall_mem_cons]
      exact ⟨first, second, nofun⟩
  | withinPast =>
      have upper : (Term.compare left "<=" _).QuietNames :=
        compared (by decide) Term.quietNames_queryTime
      have lower : (Term.compare left ">=" _).QuietNames := compared (by decide) past
      exact upper.group.pair lower.group
  | beforePast => exact compared (by decide) past
  | withinFuture =>
      have lower : (Term.compare left ">=" _).QuietNames :=
        compared (by decide) Term.quietNames_queryTime
      have upper : (Term.compare left "<=" _).QuietNames := compared (by decide) future
      exact lower.group.pair upper.group
  | afterFuture => exact compared (by decide) future
  | includes negated =>
      apply quietNames_signed
      exact .any (by decide) first (.compare (by decide) (.name (by decide)) second)

/-- The code that compares a value with the literal of an operand. -/
theorem DataType.quietNames_generate {dataType other : DataType} {operator : Operator}
    {entry : OperatorEntry} (supported : dataType.findOperator operator = .ok entry)
    {operand : String} {stereotype : Option Stereotype} {literal : Literal}
    (read : Literal.read other operand stereotype = .ok literal) {left : Term}
    (quiet : left.QuietNames)
    : (entry.generate left (.literal literal)).QuietNames := by
  rw [OperatorEntry.generate, shape_of_findOperator supported]
  exact OperatorShape.quietNames_apply operator.quiet_shape quiet
    (.literal (Literal.closed_of_read read))

-----------------------------------------------------------------------------------------
-- What expressions are compiled to
-----------------------------------------------------------------------------------------

namespace Compiler

section relationships

variable {relationship : Relationship} {subject : Term}

/-- The code that reads related entities has quiet names. -/
theorem quietNames_related (quiet : Quiet relationship.id) (names : subject.QuietNames)
    : (relationship.related subject).QuietNames :=
  .member names quiet

theorem quietNames_existing
    (plain : relationship.shape = .collection ∨ relationship.shape = .singular)
    (quiet : Quiet relationship.id) (names : subject.QuietNames)
    : (relationship.existing subject).QuietNames := by
  have related := quietNames_related quiet names
  unfold Relationship.existing
  rcases plain with shape | shape
  · rw [shape]
    exact .not (.isEmpty related)
  · rw [shape]
    exact related.group.present

/-- A relationship compiles its query for a term with quiet names, and puts such names around it. -/
theorem quietNames_wrapping {wrapping : Wrapping}
    (wraps : relationship.wrapping? subject = some wrapping) (quiet : Quiet relationship.id)
    (names : subject.QuietNames)
    : wrapping.inner.QuietNames
      ∧ ∀ nested : Term, nested.QuietNames → (wrapping.around nested).QuietNames := by
  have related := quietNames_related quiet names
  obtain ⟨_, rfl⟩ | ⟨_, rfl⟩ := Relationship.shape_of_wrapping? wraps
  · exact ⟨.name (by decide), fun nested holds => .any (by decide) related holds⟩
  · exact ⟨related, fun nested holds => .group (related.present.pair holds)⟩

end relationships

theorem quietNames_negateIf {term : Term} (names : term.QuietNames) (negated : Bool)
    : (negateIf negated term).QuietNames := by
  cases negated with
  | false => exact names
  | true => exact .not (.group names)

theorem quietNames_narrowed {guard : Term} (names : guard.QuietNames)
    : (narrowed guard).QuietNames := by
  have subject : (Term.name narrowedName).QuietNames := .name (by decide)
  exact .group (subject.present.pair names)

/-- The type of an arm is a type of the schema. -/
theorem quiet_of_armTerm {schema : Schema} (quiet : schema.QuietNames) {maxDepth depth : Nat}
    {source : TypeArm} {arm : String × Term}
    (compiled : ArmTerm ⟨schema, maxDepth⟩ depth source arm)
    : Quiet arm.1 := by
  cases compiled with
  | always found | guarded found =>
      exact quiet.of_get? (Schema.require_eq_ok.mp found)

/-- Whatever an expression is compiled to has quiet names, by induction on the expression. -/
theorem quietNames_node {document : SchemaDocument} {schema : Schema}
    (valid : document.toSchema = .ok schema) (quiet : schema.QuietNames) {name : String}
    {type : ObjectType} (known : schema.get? name = some type) {subject : Term}
    (names : subject.QuietNames) {maxDepth depth : Nat} {expression : Expression} {term : Term}
    (compiled : node ⟨schema, maxDepth⟩ type subject depth expression = .ok term)
    : term.QuietNames := by
  induction expression generalizing name type subject depth term with
  | boolean combiner members ih =>
      cases (node_eq_ok.mp compiled).2 with
      | boolean _ each =>
          apply Term.QuietNames.group
          apply Term.QuietNames.connect
          intro part present
          obtain ⟨source, among, compiled⟩ := exists_of_mem_forall₂ each present
          exact ih source among known names compiled
  | property id operator operand =>
      cases (node_eq_ok.mp compiled).2 with
      | property found supported read =>
          have plain := SchemaDocument.plain_of_toSchema valid name type known
          rw [Property.access, plain.accessor_of_property? found]
          have named := quiet.of_property? known found
          exact DataType.quietNames_generate supported read (.member names named)
  | relationship negated id query ih =>
      have plain := SchemaDocument.plain_of_toSchema valid name type known
      cases (node_eq_ok.mp compiled).2 with
      | existing found =>
          have named := quiet.of_relationship? known found
          apply quietNames_negateIf
          exact quietNames_existing (plain.shape_of_relationship? found) named names
      | matching found target wraps holds =>
          have named := quiet.of_relationship? known found
          obtain ⟨inner, around⟩ := quietNames_wrapping wraps named names
          have nested := ih _ rfl (Schema.require_eq_ok.mp target) inner holds
          exact quietNames_negateIf (around _ nested) negated
      | written found _ free => exact absurd free (plain.wrapping?_ne_none found _)
  | name operator operand =>
      cases (node_eq_ok.mp compiled).2 with
      | name naming supported read =>
          obtain ⟨property, listed, rfl⟩ :=
            SchemaDocument.exists_property_of_naming valid known _ naming
          have named := quiet.of_mem_properties known listed
          exact DataType.quietNames_generate supported read (.member names named)
  | insight negated badge =>
      cases (node_eq_ok.mp compiled).2 with
      | insight _ =>
          have insight : (Term.name insightName).QuietNames := .name (by decide)
          have insights : (Term.member subject ObjectType.insightsId).QuietNames :=
            names.member (by decide)
          apply quietNames_negateIf
          apply Term.QuietNames.any (by decide) insights
          exact .compare (by decide) (insight.member (by decide)) (Term.quietNames_text badge)
  | typeSwitch arms ih =>
      cases (node_eq_ok.mp compiled).2 with
      | typeSwitch _ each =>
          apply Term.QuietNames.group
          apply Term.QuietNames.choose (by decide) names
          · intro arm present
            obtain ⟨source, _, compiled⟩ := exists_of_mem_forall₂ each present
            exact quiet_of_armTerm quiet compiled
          · intro arm present
            obtain ⟨source, among, compiled⟩ := exists_of_mem_forall₂ each present
            cases compiled with
            | always => exact quietNames_narrowed (.literal (.truth true))
            | guarded found holds =>
                have known := Schema.require_eq_ok.mp found
                exact quietNames_narrowed (ih _ _ among known (.name (by decide)) holds)

/-- What compiles under the schema of a document becomes code that is lexically well formed, if the
names of the schema and the subject are quiet. Operands and badges may hold anything.
-/
theorem generateForType_wellFormed {document : SchemaDocument} {schema : Schema}
    (valid : document.toSchema = .ok schema) (quiet : schema.QuietNames) {maxDepth : Nat}
    {name subject : String} (quietSubject : Quiet subject) {expression : Expression}
    {code : String}
    (compiled : generateForType ⟨schema, maxDepth⟩ name subject expression = .ok code)
    : LexicallyWellFormed code := by
  obtain ⟨type, term, known, done, rfl⟩ := generateForType_eq_ok.mp compiled
  have names := quietNames_node valid quiet known (.name quietSubject) done
  exact names.balanced 0

/-- An operand may hold marks, backslashes and parentheses, and a badge too. -/
theorem devices_wellFormed
    : SchemaDocument.devices.toSchema = .ok SchemaDocument.devicesSchema
      ∧ SchemaDocument.devicesSchema.QuietNames
      ∧ Quiet "device"
      ∧ ∃ code,
          generateForType ⟨SchemaDocument.devicesSchema, 4⟩ "Device" "device"
            (.boolean .or
              [ .relationship true "peers" (some (.property "tags" .includes ")\"\\(")),
                .insight false "\\\")" ])
            = .ok code
          ∧ LexicallyWellFormed code := by
  have quiet : SchemaDocument.devicesSchema.QuietNames := ⟨by decide, by decide, by decide⟩
  have quietSubject : Quiet "device" := by decide
  refine ⟨SchemaDocument.devices_toSchema, quiet, quietSubject, ?_⟩
  have compiled
      : ∃ code,
          generateForType ⟨SchemaDocument.devicesSchema, 4⟩ "Device" "device"
            (.boolean .or
              [ .relationship true "peers" (some (.property "tags" .includes ")\"\\(")),
                .insight false "\\\")" ])
          = .ok code :=
    ⟨_, rfl⟩
  obtain ⟨code, compiled⟩ := compiled
  exact ⟨code, compiled,
    generateForType_wellFormed SchemaDocument.devices_toSchema quiet quietSubject compiled⟩

end Compiler

end QueryTree
