import QueryTree.Proofs.Compile.Node
import QueryTree.Proofs.Expression.Default

/-! Which kinds of questions a type can be asked. A kind that asks for one member of the type, or
for its name, has a default exactly where some expression of the kind compiles: both need that the
type has what the kind asks for, and nothing more.
-/

namespace QueryTree

/-- The kinds that ask for a member of the type or for its name; the others are made of expressions
for other types or of other kinds.
-/
def ExpressionKind.memberBased : ExpressionKind → Bool
  | .property | .relationship | .negatedRelationship | .name | .hasInsight | .negatedHasInsight =>
      true
  | .boolean | .typeSwitch => false

/-- What a kind asks of a type. -/
def ObjectType.Supports (type : ObjectType) : ExpressionKind → Prop
  | .property => type.properties ≠ []
  | .relationship | .negatedRelationship => type.relationships ≠ []
  | .name => type.naming.isSome = true
  | .hasInsight | .negatedHasInsight => type.hasInsights = true
  | .boolean | .typeSwitch => True

/-- Some expression of the kind compiles for a subject of the type called `name`. -/
def Compiler.Hosts (compiler : Compiler) (name subject : String) (kind : ExpressionKind) : Prop :=
  ∃ expression : Expression,
    expression.kind = kind ∧ ∃ code, compiler.generateForType name subject expression = .ok code

namespace DataType

/-- Every data type has a first operator. -/
theorem exists_first (dataType : DataType) : ∃ entry, dataType.operators.head? = some entry := by
  cases dataType <;> exact ⟨_, rfl⟩

/-- An operand for the first operator of a data type. -/
def sample : DataType → String
  | .number => "0"
  | .boolean => "true"
  | .string | .time | .stringList => ""

theorem exists_compare_sample (dataType : DataType) (value : Term)
    : ∃ operator term, dataType.compare value operator dataType.sample = .ok term := by
  obtain ⟨entry, first⟩ := dataType.exists_first
  have read
      : verdict (Literal.read (entry.operandTypeFor dataType) dataType.sample entry.stereotype)
        = .ok () := by
    cases dataType <;> cases first <;> rfl
  obtain ⟨term, done⟩ := verdict_eq_ok.mp ((verdict_compare_first first value _).trans read)
  exact ⟨entry.operator, term, done⟩

end DataType

section supports

variable {compiler : Compiler} {type : ObjectType} {subject : Term} {depth : Nat}
  {kind : ExpressionKind} {expression : Expression} {term : Term}

/-- What compiles asks for something that the type has. -/
theorem ObjectType.supports_of_node
    (compiled : compiler.node type subject depth expression = .ok term)
    : type.Supports expression.kind := by
  cases (Compiler.node_eq_ok.mp compiled).2 with
  | boolean | typeSwitch => trivial
  | property found => exact List.ne_nil_of_mem (List.mem_of_find?_eq_some found)
  | @existing negated _ _ found | @matching negated _ _ _ _ _ _ found
  | @written negated _ _ _ _ _ found =>
      cases negated <;> exact List.ne_nil_of_mem (List.mem_of_find?_eq_some found)
  | name named => exact Option.isSome_of_eq_some named
  | @insight negated _ capable => cases negated <;> exact capable

theorem ObjectType.exists_relationship (some : type.relationships ≠ []) (negated : Bool)
    (shallow : depth ≤ compiler.maxDepth) (subject : Term)
    : ∃ id term, compiler.node type subject depth (.relationship negated id none) = .ok term := by
  obtain ⟨first, rest, listed⟩ := List.exists_cons_of_ne_nil some
  have found : type.relationship? first.id = Option.some first := by
    simp [ObjectType.relationship?, listed]
  exact ⟨first.id, _, Compiler.node_eq_ok.mpr ⟨shallow, .existing found⟩⟩

/-- Whatever a type has can be asked for, kind by kind. Of a property the first operator is asked,
with an operand that is surely one.
-/
theorem ObjectType.exists_node (supported : type.Supports kind) (single : kind.memberBased = true)
    (shallow : depth ≤ compiler.maxDepth) (subject : Term)
    : ∃ expression : Expression,
        expression.kind = kind
        ∧ ∃ term, compiler.node type subject depth expression = .ok term := by
  cases kind with
  | boolean | typeSwitch => cases single
  | property =>
      obtain ⟨first, rest, listed⟩ := List.exists_cons_of_ne_nil supported
      have found : type.property? first.id = some first := by
        simp [ObjectType.property?, listed]
      obtain ⟨operator, term, compared⟩ :=
        first.dataType.exists_compare_sample (first.access subject)
      refine ⟨.property first.id operator first.dataType.sample, rfl, term, ?_⟩
      rw [Compiler.node, if_neg (Nat.not_lt.mpr shallow)]
      exact Compiler.propertyTest_eq_ok.mpr ⟨first, found, compared⟩
  | relationship =>
      obtain ⟨id, compiled⟩ := ObjectType.exists_relationship supported false shallow subject
      exact ⟨_, rfl, compiled⟩
  | negatedRelationship =>
      obtain ⟨id, compiled⟩ := ObjectType.exists_relationship supported true shallow subject
      exact ⟨_, rfl, compiled⟩
  | name =>
      obtain ⟨naming, named⟩ := Option.isSome_iff_exists.mp supported
      exact ⟨.name .equal "", rfl, _, Compiler.node_eq_ok.mpr ⟨shallow, .name named rfl rfl⟩⟩
  | hasInsight =>
      exact ⟨.insight false "", rfl, _, Compiler.node_eq_ok.mpr ⟨shallow, .insight supported⟩⟩
  | negatedHasInsight =>
      exact ⟨.insight true "", rfl, _, Compiler.node_eq_ok.mpr ⟨shallow, .insight supported⟩⟩

end supports

namespace Compiler

theorem hosts_iff {compiler : Compiler} {name : String} {type : ObjectType}
    (known : compiler.schema.get? name = some type) {kind : ExpressionKind}
    (single : kind.memberBased = true) (shallow : 1 ≤ compiler.maxDepth) (subject : String)
    : compiler.Hosts name subject kind ↔ type.Supports kind := by
  constructor
  · intro hosted
    obtain ⟨expression, rfl, code, generated⟩ := hosted
    obtain ⟨again, term, found, compiled, _⟩ := generateForType_eq_ok.mp generated
    obtain rfl := Option.some.inj (found.symm.trans known)
    exact ObjectType.supports_of_node compiled
  · intro supported
    obtain ⟨expression, same, term, compiled⟩ :=
      ObjectType.exists_node supported single shallow (.name subject)
    have generated := generateForType_eq_ok.mpr ⟨type, term, known, compiled, rfl⟩
    exact ⟨expression, same, term.code, generated⟩

end Compiler

namespace Expression

variable {schema : Schema} {name : String} {type : ObjectType} {kind : ExpressionKind}
  {offered : Expression}

theorem isSome_defaultProperty? : (defaultProperty? type).isSome = true ↔ type.properties ≠ [] := by
  unfold defaultProperty?
  cases type.properties with
  | nil => simp
  | cons first rest =>
      obtain ⟨entry, table⟩ := first.dataType.exists_first
      simp [table]

theorem isSome_defaultRelationship? {negated : Bool}
    : (defaultRelationship? negated type).isSome = true ↔ type.relationships ≠ [] := by
  unfold defaultRelationship?
  cases type.relationships <;> simp

/-- A default is offered for what the type has, kind by kind. -/
theorem isSome_defaultOfKind? (single : kind.memberBased = true)
    : (defaultOfKind? schema name type kind).isSome = true ↔ type.Supports kind := by
  cases kind with
  | boolean | typeSwitch => cases single
  | property => exact isSome_defaultProperty?
  | relationship | negatedRelationship => exact isSome_defaultRelationship?
  | name | hasInsight | negatedHasInsight => simp [defaultOfKind?, ObjectType.Supports]

theorem kind_defaultOfKind? (some : defaultOfKind? schema name type kind = some offered)
    : offered.kind = kind := by
  cases kind with
  | boolean | relationship | negatedRelationship | typeSwitch =>
      obtain ⟨_, _, rfl⟩ := Option.map_eq_some_iff.mp some
      rfl
  | property =>
      obtain ⟨_, _, _, _, rfl⟩ := defaultProperty?_eq_some.mp some
      rfl
  | name | hasInsight | negatedHasInsight =>
      obtain rfl := Option.some.inj (Option.ite_none_right_eq_some.mp some).2
      rfl

end Expression

namespace Schema

/-- For a type of the schema, a default of each kind that asks for a member or the name is offered
exactly where some expression of the kind compiles, and it is of that kind. Where there is a best
default, the default group is the group of it alone.
-/
theorem default_offered_iff_hosted (schema : Schema) {name : String} {type : ObjectType}
    (known : schema.get? name = some type) {maxDepth : Nat} (shallow : 1 ≤ maxDepth)
    (subject : String)
    : (∀ kind : ExpressionKind, kind.memberBased = true →
        ∃ offered : Option Expression,
          schema.defaultExpressionOfKind name kind = .ok offered
          ∧ (offered.isSome = true ↔ Compiler.Hosts ⟨schema, maxDepth⟩ name subject kind)
          ∧ ∀ expression ∈ offered, expression.kind = kind)
      ∧ ∀ best, schema.defaultExpression name = .ok (some best) →
          schema.defaultExpressionOfKind name .boolean = .ok (some (.boolean .and [best])) := by
  have required : schema.require name = .ok type := require_eq_ok.mpr known
  constructor
  · intro kind single
    refine ⟨Expression.defaultOfKind? schema name type kind, ?_, ?_, ?_⟩
    · rw [defaultExpressionOfKind, required]
      rfl
    · rw [Expression.isSome_defaultOfKind? single, Compiler.hosts_iff known single shallow]
    · intro expression some
      exact Expression.kind_defaultOfKind? some
  · intro best found
    rw [defaultExpression, required] at found
    have start : Expression.bestDefault? schema name type = some best := Except.ok.inj found
    rw [defaultExpressionOfKind, required, Except.map, Expression.defaultOfKind?, start]
    rfl

open SchemaDocument (devicesSchema deviceEntry) in
/-- Devices can be asked for insights, and a group of one test can be started with. Insights have no
property to compare, so no test of one compiles for them.
-/
theorem insights_of_devices_are_offered
    : Compiler.Hosts ⟨devicesSchema, 1⟩ "Device" "subject" .hasInsight
      ∧ devicesSchema.defaultExpressionOfKind "Device" .boolean
        = .ok (some (.boolean .and [.property "name" .equal ""]))
      ∧ ¬ Compiler.Hosts ⟨devicesSchema, 1⟩ "RiskTriggerInsight" "subject" .property := by
  have device : devicesSchema.get? "Device" = some deviceEntry.toObjectType := rfl
  have insight : devicesSchema.get? "RiskTriggerInsight" = some .empty := rfl
  obtain ⟨ofKind, grouped⟩ := default_offered_iff_hosted devicesSchema device le_rfl "subject"
  obtain ⟨_, found, hosted, _⟩ := ofKind .hasInsight rfl
  obtain ⟨_, missing, unhosted, _⟩ :=
    (default_offered_iff_hosted devicesSchema insight le_rfl "subject").1 .property rfl
  refine ⟨?_, grouped _ rfl, ?_⟩
  · obtain rfl := Except.ok.inj found
    exact hosted.mp rfl
  · obtain rfl := Except.ok.inj missing
    exact fun some => Bool.false_ne_true (unhosted.mpr some)

end Schema

end QueryTree
