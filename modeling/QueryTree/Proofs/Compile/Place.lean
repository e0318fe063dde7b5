import QueryTree.Expression.Basic
import QueryTree.Operator.Table
import QueryTree.Proofs.List
import QueryTree.Schema.Basic

/-! The places of an expression that are judged one by one: its nodes, each for a type and at a
depth, and the selectors of its arms. What is wrong with a place is said without the compiler, and
without regard to the other places.
-/

namespace QueryTree

/-- A place of an expression. -/
inductive Place where
  /-- A node, judged for a type and at a depth. -/
  | node (type : ObjectType) (depth : Nat) (expression : Expression)
  /-- The selector of an arm. -/
  | selector (name : String)

namespace Expression

mutual

/-- The places of an expression in document order: a node before what is below it. A group keeps its
type, and a query is judged for the type it is about, if the schema has that type.
-/
def places (schema : Schema) (type : ObjectType) (depth : Nat) (expression : Expression)
    : List Place :=
  .node type depth expression ::
    match expression with
    | .boolean _ members => memberPlaces schema type (depth + 1) members
    | .relationship _ id query =>
        match type.relationship? id with
        | none => []
        | some declared => queryPlaces schema declared.target (depth + 1) query
    | .typeSwitch arms => armsPlaces schema (depth + 1) arms
    | .property _ _ _ | .name _ _ | .insight _ _ => []
termination_by structural expression

def memberPlaces (schema : Schema) (type : ObjectType) (depth : Nat) : List Expression → List Place
  | [] => []
  | member :: rest => member.places schema type depth ++ memberPlaces schema type depth rest
termination_by structural members => members

/-- The places of a query about the type called `name`. -/
def queryPlaces (schema : Schema) (name : String) (depth : Nat) : Option Expression → List Place
  | none => []
  | some query =>
      match schema.get? name with
      | none => []
      | some type => query.places schema type depth
termination_by structural query => query

def armsPlaces (schema : Schema) (depth : Nat) : List TypeArm → List Place
  | [] => []
  | arm :: rest => armPlaces schema depth arm ++ armsPlaces schema depth rest
termination_by structural arms => arms

/-- The places of an arm: its selector, and then its query. -/
def armPlaces (schema : Schema) (depth : Nat) : TypeArm → List Place
  | .arm selector query => .selector selector :: queryPlaces schema selector depth query
termination_by structural arm => arm

end

theorem memberPlaces_eq (schema : Schema) (type : ObjectType) (depth : Nat)
    (members : List Expression)
    : memberPlaces schema type depth members
      = members.flatMap fun member => member.places schema type depth :=
  eq_flatMap rfl (fun _ _ => rfl) members

theorem armsPlaces_eq (schema : Schema) (depth : Nat) (arms : List TypeArm)
    : armsPlaces schema depth arms = arms.flatMap (armPlaces schema depth) :=
  eq_flatMap rfl (fun _ _ => rfl) arms

end Expression

/-- A raw operand is a literal of a data type. Numbers and truth values must have their written
form, and lists have no literals.
-/
def Literal.Valid (raw : String) (stereotype : Option Stereotype) : DataType → Prop
  | .number => isNumber (stereotype ≠ some .timeSpan) raw.toList = true
  | .boolean => raw = "true" ∨ raw = "false"
  | .string | .time => True
  | .stringList => False

/-- Why a data type cannot be compared by an operator with an operand. -/
inductive DataType.Misfit (dataType : DataType) (operator : Operator) (operand : String)
    : CompileFault → Prop
  /-- The operator is not in the table of the data type. -/
  | unsupported (missing : ∀ entry ∈ dataType.operators, entry.operator ≠ operator)
    : dataType.Misfit operator operand (.unsupportedOperator operator dataType)
  /-- The operand is no literal of the type that the operator wants. -/
  | unreadable {entry} (listed : entry ∈ dataType.operators) (called : entry.operator = operator)
    (invalid : ¬Literal.Valid operand entry.stereotype (entry.operandTypeFor dataType))
    : dataType.Misfit operator operand (.invalidLiteral (entry.operandTypeFor dataType) operand)

/-- Why a node does not fit the type that it is judged for, whatever its depth. -/
inductive Expression.Misfit (schema : Schema) (type : ObjectType)
    : Expression → CompileFault → Prop
  | emptyGroup {combiner} : Misfit schema type (.boolean combiner []) (.emptyGroup .boolean)
  | unknownProperty {id operator operand}
    (absent : ∀ property ∈ type.properties, property.id ≠ id)
    : Misfit schema type (.property id operator operand) (.unknownProperty id)
  /-- The first property of the name is the one that counts. -/
  | property {id operator operand property fault} (found : type.property? id = some property)
    (wrong : property.dataType.Misfit operator operand fault)
    : Misfit schema type (.property id operator operand) fault
  | unknownRelationship {negated id query}
    (absent : ∀ relationship ∈ type.relationships, relationship.id ≠ id)
    : Misfit schema type (.relationship negated id query) (.unknownRelationship id)
  /-- Only a query needs the type that a relationship leads to. -/
  | unknownTarget {negated id query relationship}
    (found : type.relationship? id = some relationship)
    (absent : schema.get? relationship.target = none)
    : Misfit schema type (.relationship negated id (some query))
        (.unknownType relationship.target)
  | unnamed {operator operand} (unnamed : type.naming = none)
    : Misfit schema type (.name operator operand) .namingUnsupported
  /-- A name is a string, and every operand is a literal of strings. -/
  | nameOperator {operator operand} (named : type.naming ≠ none)
    (missing : ∀ entry ∈ DataType.string.operators, entry.operator ≠ operator)
    : Misfit schema type (.name operator operand) (.unsupportedOperator operator .string)
  | withoutInsights {negated badge}
    (incapable
      : ∀ relationship,
          type.relationship? ObjectType.insightsId = some relationship
          → relationship.target ∉ ObjectType.insightTargets)
    : Misfit schema type (.insight negated badge) .insightsUnsupported
  | emptySwitch : Misfit schema type (.typeSwitch []) (.emptyGroup .typeSwitch)

/-- Why a place is refused. A node that is too deep is not looked at any further. -/
inductive Place.Inadmissible (schema : Schema) (maxDepth : Nat) : Place → CompileFault → Prop
  | tooDeep {type depth expression} (deep : maxDepth < depth)
    : Inadmissible schema maxDepth (.node type depth expression) (.depthLimitExceeded maxDepth)
  | misfit {type depth expression fault} (shallow : depth ≤ maxDepth)
    (wrong : expression.Misfit schema type fault)
    : Inadmissible schema maxDepth (.node type depth expression) fault
  | unknownSelector {name} (absent : schema.get? name = none)
    : Inadmissible schema maxDepth (.selector name) (.unknownType name)

/-- Nothing is wrong with a place. -/
def Place.Admissible (schema : Schema) (maxDepth : Nat) (place : Place) : Prop :=
  ∀ fault, ¬place.Inadmissible schema maxDepth fault

end QueryTree
