import QueryTree.Expression.Kind
import QueryTree.Operator.Basic

/-! Expressions: trees of conditions on an entity. A group combines conditions on the same entity, a
relationship asks about related entities, and a type switch asks a condition of the entity's own
type. A relationship without a query asks only whether there is a related entity at all.
-/

namespace QueryTree

mutual

/-- A condition on an entity. -/
inductive Expression where
  /-- All or some of the members hold. -/
  | boolean (combiner : Combiner) (members : List Expression)
  /-- A property compares with an operand. -/
  | property (id : String) (operator : Operator) (operand : String)
  /-- Some related entity satisfies the query, or none does. -/
  | relationship (negated : Bool) (id : String) (query : Option Expression)
  /-- The entity's name compares with an operand. -/
  | name (operator : Operator) (operand : String)
  /-- The entity has an insight with a badge, or has none. -/
  | insight (negated : Bool) (badge : String)
  /-- The entity satisfies the query of the first arm whose type it has. -/
  | typeSwitch (arms : List TypeArm)

/-- An arm of a type switch: a type, and a condition on entities of that type, if any. -/
inductive TypeArm where
  | arm (selector : String) (query : Option Expression)

end

namespace Expression

/-- The kind of a node. -/
def kind : Expression → ExpressionKind
  | .boolean _ _ => .boolean
  | .property _ _ _ => .property
  | .relationship false _ _ => .relationship
  | .relationship true _ _ => .negatedRelationship
  | .name _ _ => .name
  | .insight false _ => .hasInsight
  | .insight true _ => .negatedHasInsight
  | .typeSwitch _ => .typeSwitch

end Expression

end QueryTree
