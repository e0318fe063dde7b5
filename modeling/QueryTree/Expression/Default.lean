import QueryTree.Expression.Basic
import QueryTree.Operator.Table
import QueryTree.Schema.Subtypes

/-! Default expressions: the smallest expression to start from for a type, of a given kind or of the
best kind there is. A type that cannot be asked a kind of question has no default of that kind.
-/

namespace QueryTree.Expression

/-- The operand that stands for nothing yet: empty, except where that is not a literal. -/
def placeholder : DataType → String
  | .number => "0"
  | _ => ""

/-- The first property compared by its first operator with its first listed value. -/
def defaultProperty? (type : ObjectType) : Option Expression :=
  match type.properties.head? with
  | none => none
  | some first =>
      match first.dataType.operators.head? with
      | none => none
      | some entry =>
          let listed := first.enumValues.bind List.head?
          some (.property first.id entry.operator (listed.getD (placeholder first.dataType)))

/-- The existence of entities related by the first relationship, or its negation. -/
def defaultRelationship? (negated : Bool) (type : ObjectType) : Option Expression :=
  type.relationships.head?.map fun first => .relationship negated first.id none

/-- Whether the entity is of the first subtype. -/
def defaultTypeSwitch? (schema : Schema) (name : String) : Option Expression :=
  (schema.subtypes name).head?.map fun subtype => .typeSwitch [.arm subtype none]

/-- The best default of a type: of a property, else of a relationship, else of a type switch. -/
def bestDefault? (schema : Schema) (name : String) (type : ObjectType) : Option Expression :=
  ((defaultProperty? type).or (defaultRelationship? false type)).or
    (defaultTypeSwitch? schema name)

/-- The default of a given kind. -/
def defaultOfKind? (schema : Schema) (name : String) (type : ObjectType)
    : ExpressionKind → Option Expression
  | .boolean => (bestDefault? schema name type).map fun best => .boolean .and [best]
  | .property => defaultProperty? type
  | .relationship => defaultRelationship? false type
  | .negatedRelationship => defaultRelationship? true type
  | .name => if type.naming.isSome then some (.name .equal "") else none
  | .hasInsight => if type.hasInsights then some (.insight false "") else none
  | .negatedHasInsight => if type.hasInsights then some (.insight true "") else none
  | .typeSwitch => defaultTypeSwitch? schema name

end QueryTree.Expression

namespace QueryTree.Schema

/-- The best default for the type called `name`. -/
def defaultExpression (schema : Schema) (name : String)
    : Except CompileFault (Option Expression) :=
  (schema.require name).map (Expression.bestDefault? schema name)

/-- The default of a given kind for the type called `name`. -/
def defaultExpressionOfKind (schema : Schema) (name : String) (kind : ExpressionKind)
    : Except CompileFault (Option Expression) :=
  (schema.require name).map fun type => Expression.defaultOfKind? schema name type kind

end QueryTree.Schema
