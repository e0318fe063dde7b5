import QueryTree.Expression.Basic
import QueryTree.Json.Writer

/-! The stored form of expressions. A node is an object that starts with its tag, its other fields
in a fixed order; a query that is not there is written as `null`.
-/

namespace QueryTree.Expression

mutual

/-- An expression as a JSON value. -/
def toJson : Expression → Json
  | .boolean combiner members =>
      .object [
        ("type", .string "boolean"),
        ("combiner", .string combiner.token),
        ("subExpressions", .array (membersToJson members))]
  | .property id operator operand =>
      .object [
        ("type", .string "property"),
        ("property", .string id),
        ("operator", .string operator.token),
        ("operand", .string operand)]
  | .relationship negated id query =>
      .object [
        ("type", .string (if negated then "negatedRelationship" else "relationship")),
        ("relationshipName", .string id),
        ("relationshipQuery", queryToJson query)]
  | .name operator operand =>
      .object [
        ("type", .string "name"),
        ("operator", .string operator.token),
        ("operand", .string operand)]
  | .insight negated badge =>
      .object [
        ("type", .string (if negated then "negatedHasInsight" else "hasInsight")),
        ("insightBadge", .string badge)]
  | .typeSwitch arms =>
      .object [
        ("type", .string "typeSwitch"),
        ("typeQueries", .array (armsToJson arms))]
termination_by structural expression => expression

/-- The members of a group as JSON values. -/
def membersToJson : List Expression → List Json
  | [] => []
  | member :: members => member.toJson :: membersToJson members
termination_by structural members => members

/-- A query that may be missing as a JSON value. -/
def queryToJson : Option Expression → Json
  | none => .null
  | some query => query.toJson
termination_by structural query => query

/-- The arms of a type switch as JSON values. -/
def armsToJson : List TypeArm → List Json
  | [] => []
  | arm :: arms => armToJson arm :: armsToJson arms
termination_by structural arms => arms

/-- An arm of a type switch as a JSON value. -/
def armToJson : TypeArm → Json
  | .arm selector query =>
      .object [("typeSelector", .string selector), ("query", queryToJson query)]
termination_by structural arm => arm

end

end QueryTree.Expression
