import QueryTree.Proofs.Compile.Admission
import QueryTree.Proofs.Compile.Depth
import QueryTree.Proofs.Schema.Description

/-! What faults are about. Whatever an expression is refused for under the schema of a document can
be pointed at in the expression itself. The references of a document hold, so the target of a
relationship is never what is missing.
-/

namespace QueryTree

/-- An expression is, or has somewhere below it, the other. -/
inductive Expression.Contains : Expression → Expression → Prop
  | self {expression} : Contains expression expression
  | member {combiner members member inner} (present : member ∈ members)
    (below : Contains member inner)
    : Contains (.boolean combiner members) inner
  | query {negated id query inner} (below : Contains query inner)
    : Contains (.relationship negated id (some query)) inner
  | arm {arms selector query inner} (present : .arm selector (some query) ∈ arms)
    (below : Contains query inner)
    : Contains (.typeSwitch arms) inner

/-- Some switch in the expression has an arm for the type called `name`. -/
def Expression.Selects (expression : Expression) (name : String) : Prop :=
  ∃ arms query, expression.Contains (.typeSwitch arms) ∧ .arm name query ∈ arms

/-- What a fault is about stands in the expression: the name, the operator or the operand that it
reports, in a node of the kind that has such. Constants and kinds are never reported.
-/
def CompileFault.Blames (schema : Schema) (maxDepth : Nat) (expression : Expression)
    : CompileFault → Prop
  | .unknownProperty id => ∃ operator operand, expression.Contains (.property id operator operand)
  | .unknownRelationship id => ∃ negated query, expression.Contains (.relationship negated id query)
  | .unknownType name =>
      expression.Selects name
      ∧ schema.get? name = none
      ∧ ∀ source type, schema.get? source = some type →
          ∀ relationship ∈ type.relationships, relationship.target ≠ name
  | .namingUnsupported => ∃ operator operand, expression.Contains (.name operator operand)
  | .insightsUnsupported => ∃ negated badge, expression.Contains (.insight negated badge)
  | .unsupportedOperator operator dataType =>
      (∃ id operand, expression.Contains (.property id operator operand))
      ∨ dataType = .string ∧ ∃ operand, expression.Contains (.name operator operand)
  | .invalidLiteral _ operand => ∃ id operator, expression.Contains (.property id operator operand)
  | .emptyGroup kind =>
      (kind = .boolean ∧ ∃ combiner, expression.Contains (.boolean combiner []))
      ∨ kind = .typeSwitch ∧ expression.Contains (.typeSwitch [])
  | .depthLimitExceeded limit => limit = maxDepth ∧ maxDepth < expression.height
  | .unsupportedConstant _ | .unrecognizedKind _ => False

/-- A place belongs to an expression: a node stands in it, at a depth below the bound, and is judged
for a type of the schema.
-/
def Place.Within (schema : Schema) (expression : Expression) (bound : Nat) : Place → Prop
  | .node type depth inner =>
      expression.Contains inner ∧ (∃ name, schema.get? name = some type) ∧ depth < bound
  | .selector name => expression.Selects name

section within

variable {schema : Schema} {place : Place}

theorem Place.Within.root {name : String} {type : ObjectType}
    (known : schema.get? name = some type) (depth : Nat) (expression : Expression)
    : (Place.node type depth expression).Within schema expression (depth + expression.height) :=
  ⟨.self, ⟨name, known⟩, Nat.lt_add_of_pos_right expression.height_pos⟩

/-- What belongs to something below a node belongs to the node. -/
theorem Place.Within.lift {expression below : Expression} {bound deeper : Nat}
    (within : place.Within schema below bound)
    (part : ∀ inner, below.Contains inner → expression.Contains inner) (le : bound ≤ deeper)
    : place.Within schema expression deeper := by
  cases place with
  | node type depth inner =>
      obtain ⟨contained, known, shallow⟩ := within
      exact ⟨part _ contained, known, Nat.lt_of_lt_of_le shallow le⟩
  | selector name =>
      obtain ⟨arms, query, contained, present⟩ := within
      exact ⟨arms, query, part _ contained, present⟩

/-- A place of a query is a place of the expression there is, judged for a type of the schema. -/
theorem exists_query_of_mem_queryPlaces {name : String} {depth : Nat} {query : Option Expression}
    (present : place ∈ Expression.queryPlaces schema name depth query)
    : ∃ inner type,
        query = some inner
        ∧ schema.get? name = some type
        ∧ place ∈ inner.places schema type depth := by
  cases query with
  | none => cases present
  | some inner =>
      rw [Expression.queryPlaces] at present
      split at present
      · cases present
      · exact ⟨inner, _, rfl, ‹_›, present⟩

/-- All places of an expression belong to it, by induction on the expression. -/
theorem within_of_mem_places {name : String} {type : ObjectType}
    (known : schema.get? name = some type) {depth : Nat} {expression : Expression}
    (present : place ∈ expression.places schema type depth)
    : place.Within schema expression (depth + expression.height) := by
  induction expression generalizing name type depth with
  | boolean combiner members ih =>
      rw [Expression.places] at present
      rcases List.mem_cons.mp present with rfl | below
      · exact .root known depth _
      · rw [Expression.memberPlaces_eq] at below
        obtain ⟨member, among, found⟩ := List.mem_flatMap.mp below
        have lower := Expression.membersHeight_le_iff.mp (Nat.le_refl _) member among
        refine (ih member among known found).lift (fun _ => .member among) ?_
        rw [Expression.height]
        omega
  | relationship negated id query ih =>
      rw [Expression.places] at present
      rcases List.mem_cons.mp present with rfl | below
      · exact .root known depth _
      · split at below
        · cases below
        · obtain ⟨inner, target, rfl, there, found⟩ := exists_query_of_mem_queryPlaces below
          refine (ih inner rfl there found).lift (fun _ => .query) ?_
          rw [Expression.height, Expression.queryHeight]
          omega
  | typeSwitch arms ih =>
      rw [Expression.places] at present
      rcases List.mem_cons.mp present with rfl | below
      · exact .root known depth _
      · rw [Expression.armsPlaces_eq] at below
        obtain ⟨⟨selector, query⟩, among, found⟩ := List.mem_flatMap.mp below
        rcases List.mem_cons.mp found with rfl | inside
        · exact ⟨arms, query, .self, among⟩
        · obtain ⟨inner, target, rfl, there, found⟩ := exists_query_of_mem_queryPlaces inside
          have lower : inner.height ≤ Expression.armsHeight arms :=
            Expression.armsHeight_le_iff.mp (Nat.le_refl _) _ among
          refine (ih selector inner among there found).lift (fun _ => .arm among) ?_
          rw [Expression.height]
          omega
  | property | name | insight =>
      rw [Expression.places] at present
      obtain rfl := List.mem_singleton.mp present
      exact .root known depth _

/-- What is wrong with a place of an expression is about the expression, if no relationship leads to
an unknown type.
-/
theorem Place.Inadmissible.blames {maxDepth : Nat} {fault : CompileFault} {expression : Expression}
    (refused : place.Inadmissible schema maxDepth fault)
    (within : place.Within schema expression (1 + expression.height))
    (closed
      : ∀ source type, schema.get? source = some type →
          ∀ relationship ∈ type.relationships,
            ∃ target, schema.get? relationship.target = some target)
    : fault.Blames schema maxDepth expression := by
  cases refused with
  | tooDeep deep =>
      obtain ⟨_, _, bounded⟩ := within
      exact ⟨rfl, by omega⟩
  | unknownSelector absent =>
      refine ⟨within, absent, ?_⟩
      rintro source type known relationship declared rfl
      obtain ⟨target, there⟩ := closed source type known relationship declared
      cases absent.symm.trans there
  | misfit _ wrong =>
      obtain ⟨contained, ⟨name, known⟩, _⟩ := within
      cases wrong with
      | emptyGroup => exact .inl ⟨rfl, _, contained⟩
      | emptySwitch => exact .inr ⟨rfl, contained⟩
      | unknownProperty => exact ⟨_, _, contained⟩
      | property _ wrong =>
          cases wrong with
          | unsupported => exact .inl ⟨_, _, contained⟩
          | unreadable => exact ⟨_, _, contained⟩
      | unknownRelationship => exact ⟨_, _, contained⟩
      | unknownTarget found absent =>
          have declared := List.mem_of_find?_eq_some found
          obtain ⟨target, there⟩ := closed name _ known _ declared
          cases absent.symm.trans there
      | unnamed => exact ⟨_, _, contained⟩
      | nameOperator => exact .inr ⟨rfl, _, contained⟩
      | withoutInsights => exact ⟨_, _, contained⟩

end within

namespace Compiler

/-- Under the schema of a document, whatever an expression is refused for is about something that
stands in the expression.
-/
theorem generateForType_blames_expression {document : SchemaDocument} {schema : Schema}
    (valid : document.toSchema = .ok schema) {name : String} {type : ObjectType}
    (known : schema.get? name = some type) {maxDepth : Nat} {subject : String}
    {expression : Expression} {fault : CompileFault}
    (failed : generateForType ⟨schema, maxDepth⟩ name subject expression = .error fault)
    : fault.Blames schema maxDepth expression := by
  have plain := SchemaDocument.plain_of_toSchema valid
  have reports := reports_generateForType plain known maxDepth subject expression
  rw [verdict_eq_error.mpr failed] at reports
  obtain ⟨before, place, after, places, _, refused⟩ := reports.exists_first
  apply refused.blames
  · apply within_of_mem_places known
    rw [places]
    exact List.mem_append_right before List.mem_cons_self
  · intro source declaring found
    exact SchemaDocument.exists_target_of_toSchema valid found

/-- Devices with a peer whose ports are about "many" are refused for that operand. It stands behind
a relationship, in a group.
-/
theorem devices_operand_blamed
    : SchemaDocument.devices.toSchema = .ok SchemaDocument.devicesSchema
      ∧ (∃ type, SchemaDocument.devicesSchema.get? "Device" = some type)
      ∧ ∃ expression,
          generateForType ⟨SchemaDocument.devicesSchema, 4⟩ "Device" "d" expression
            = .error (.invalidLiteral .number "many")
          ∧ (CompileFault.invalidLiteral .number "many").Blames SchemaDocument.devicesSchema 4
              expression := by
  have failed
      : generateForType ⟨SchemaDocument.devicesSchema, 4⟩ "Device" "d"
          (.boolean .and
            [ .insight false "seen",
              .relationship true "peers" (some (.property "ports" .equal "many")) ])
        = .error (.invalidLiteral .number "many") :=
    rfl
  exact ⟨SchemaDocument.devices_toSchema, ⟨_, rfl⟩, _, failed,
    generateForType_blames_expression SchemaDocument.devices_toSchema rfl failed⟩

end Compiler

end QueryTree
