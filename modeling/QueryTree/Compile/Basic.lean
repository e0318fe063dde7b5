import QueryTree.Expression.Basic
import QueryTree.Operator.Table
import QueryTree.Schema.Basic

/-! Compiling expressions. An expression is checked against an object type and turned into the term
that decides it for a subject of that type. The first fault in document order ends the compilation,
and there is no partial result. Every node costs one level of depth, counted before anything else
about the node is looked at.
-/

namespace QueryTree

/-- A schema to compile against, and how deep expressions may nest. -/
structure Compiler where
  schema : Schema
  maxDepth : Nat

/-- How deep expressions may nest where nothing else is said. -/
def defaultMaxDepth : Nat := 64

/-- The subject of a query where nothing else is said. -/
def defaultSubject : String := "subject"

namespace Compiler

/-- The variable bound to a subject whose type has been narrowed. -/
def narrowedName : String := "ts"

/-- The variable bound to each insight. -/
def insightName : String := "insight"

/-- The term of a property test. -/
def propertyTest (type : ObjectType) (subject : Term) (id : String) (operator : Operator)
    (operand : String)
    : Except CompileFault Term :=
  match type.property? id with
  | none => .error (.unknownProperty id)
  | some property => property.dataType.compare (property.access subject) operator operand

/-- The term of a test of the entity's name. -/
def nameTest (type : ObjectType) (subject : Term) (operator : Operator) (operand : String)
    : Except CompileFault Term :=
  match type.naming with
  | none => .error .namingUnsupported
  | some naming => DataType.string.compare (naming.read subject) operator operand

/-- The term of "some insight has this badge". -/
def insightTest (type : ObjectType) (subject : Term) (badge : String)
    : Except CompileFault Term :=
  if type.hasInsights then
    (DataType.string.compare (.member (.name insightName) "badge") .equal badge).map fun test =>
      .any (.member subject ObjectType.insightsId) insightName test
  else .error .insightsUnsupported

/-- A term or the negation of the whole of it. -/
def negateIf (negated : Bool) (term : Term) : Term :=
  if negated then Term.negation term else term

mutual

/-- The term of a node at depth `depth`, for a subject of type `type`. -/
def node (compiler : Compiler) (type : ObjectType) (subject : Term) (depth : Nat)
    (expression : Expression)
    : Except CompileFault Term :=
  if compiler.maxDepth < depth then .error (.depthLimitExceeded compiler.maxDepth)
  else
    match expression with
    | .boolean _ [] => .error (.emptyGroup .boolean)
    | .boolean combiner (member :: members) => do
        let first ← compiler.node type subject (depth + 1) member
        let rest ← compiler.members type subject (depth + 1) members
        return .group (.connect combiner (first :: rest))
    | .property id operator operand => propertyTest type subject id operator operand
    | .relationship negated id query =>
        match type.relationship? id with
        | none => .error (.unknownRelationship id)
        | some relationship =>
            (compiler.relationshipTest relationship subject depth query).map (negateIf negated)
    | .name operator operand => nameTest type subject operator operand
    | .insight negated badge => (insightTest type subject badge).map (negateIf negated)
    | .typeSwitch [] => .error (.emptyGroup .typeSwitch)
    | .typeSwitch (arm :: arms) => do
        let first ← compiler.arm depth arm
        let rest ← compiler.arms depth arms
        return .group (.choose subject narrowedName (first :: rest))
termination_by structural expression

/-- The terms of the members of a group. -/
def members (compiler : Compiler) (type : ObjectType) (subject : Term) (depth : Nat)
    (expressions : List Expression)
    : Except CompileFault (List Term) :=
  match expressions with
  | [] => .ok []
  | expression :: expressions => do
      let first ← compiler.node type subject depth expression
      let rest ← compiler.members type subject depth expressions
      return first :: rest
termination_by structural expressions

/-- The term of a test of related entities. Without a query it does not matter whether the target
type is there.
-/
def relationshipTest (compiler : Compiler) (relationship : Relationship) (subject : Term)
    (depth : Nat) (query : Option Expression)
    : Except CompileFault Term :=
  match query with
  | none => .ok (relationship.existing subject)
  | some query => do
      let target ← compiler.schema.require relationship.target
      relationship.matching subject fun inner => compiler.node target inner (depth + 1) query
termination_by structural query

/-- The types and terms of the arms of a type switch. -/
def arms (compiler : Compiler) (depth : Nat) (arms : List TypeArm)
    : Except CompileFault (List (String × Term)) :=
  match arms with
  | [] => .ok []
  | arm :: rest => do
      let first ← compiler.arm depth arm
      let rest ← compiler.arms depth rest
      return first :: rest
termination_by structural arms

/-- The type and the term of an arm of a type switch. -/
def arm (compiler : Compiler) (depth : Nat) (arm : TypeArm)
    : Except CompileFault (String × Term) :=
  match arm with
  | .arm selector query => do
      let type ← compiler.schema.require selector
      let guard ← compiler.guard type depth query
      return (selector,
        .group (.connect .and [Term.present (.name narrowedName), guard]))
termination_by structural arm

/-- The term of the query of an arm, or truth where there is none. -/
def guard (compiler : Compiler) (type : ObjectType) (depth : Nat) (query : Option Expression)
    : Except CompileFault Term :=
  match query with
  | none => .ok (.literal (.truth true))
  | some query => compiler.node type (.name narrowedName) (depth + 1) query
termination_by structural query

end

/-- The code that decides an expression for a subject of an object type. -/
def generate (compiler : Compiler) (type : ObjectType) (subject : String)
    (expression : Expression)
    : Except CompileFault String :=
  (compiler.node type (.name subject) 1 expression).map Term.code

/-- The code that decides an expression for a subject of the type called `name`. -/
def generateForType (compiler : Compiler) (name subject : String) (expression : Expression)
    : Except CompileFault String :=
  match compiler.schema.require name with
  | .error fault => .error fault
  | .ok type => compiler.generate type subject expression

end Compiler

end QueryTree
