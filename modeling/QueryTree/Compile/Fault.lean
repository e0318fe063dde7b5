import QueryTree.Expression.Kind
import QueryTree.Operator.Basic

/-! The reasons why an expression is refused. Every fault has one wording, one category that callers
react to, and, where there is one, the identifier of the expression that it is about.
-/

namespace QueryTree

/-- A reason to refuse an expression. -/
inductive CompileFault where
  | unknownProperty (property : String)
  | unknownRelationship (relationship : String)
  | unknownType (name : String)
  | namingUnsupported
  | insightsUnsupported
  | unsupportedOperator (operator : Operator) (dataType : DataType)
  | unsupportedConstant (dataType : DataType)
  | invalidLiteral (dataType : DataType) (value : String)
  | unrecognizedKind (kind : String)
  | emptyGroup (kind : ExpressionKind)
  | depthLimitExceeded (limit : Nat)
deriving DecidableEq

namespace CompileFault

/-- The wording of a fault. -/
def message : CompileFault → String
  | .unknownProperty property => "property '" ++ property ++ "' does not exist in object"
  | .unknownRelationship relationship =>
      "relationship '" ++ relationship ++ "' does not exist in object"
  | .unknownType name => "object type '" ++ name ++ "' does not exist in schema"
  | .namingUnsupported => "object does not have a name"
  | .insightsUnsupported => "object does not have insights"
  | .unsupportedOperator operator dataType =>
      "invalid operator " ++ operator.token ++ " for property type " ++ dataType.token
  | .unsupportedConstant dataType => "no " ++ dataType.token ++ " constant"
  | .invalidLiteral dataType value => "invalid " ++ dataType.token ++ " literal '" ++ value ++ "'"
  | .unrecognizedKind kind => "unrecognized expression kind '" ++ kind ++ "'"
  | .emptyGroup kind => kind.token ++ " expression must contain at least one entry"
  | .depthLimitExceeded limit => "expression nesting exceeds the limit of " ++ toString limit

/-- The categories of faults. -/
inductive Category where
  | unknownIdentifier
  | unsupportedCapability
  | unsupportedOperator
  | invalidLiteral
  | unrecognizedKind
  | depthLimitExceeded
deriving DecidableEq

/-- The label of a category. -/
def Category.label : Category → String
  | .unknownIdentifier => "unknown_identifier"
  | .unsupportedCapability => "unsupported_capability"
  | .unsupportedOperator => "unsupported_operator"
  | .invalidLiteral => "invalid_literal"
  | .unrecognizedKind => "unrecognized_kind"
  | .depthLimitExceeded => "depth_limit_exceeded"

/-- The category of a fault. -/
def category : CompileFault → Category
  | .unknownProperty _ | .unknownRelationship _ | .unknownType _ => .unknownIdentifier
  | .namingUnsupported | .insightsUnsupported => .unsupportedCapability
  | .unsupportedOperator _ _ => .unsupportedOperator
  | .unsupportedConstant _ | .invalidLiteral _ _ => .invalidLiteral
  | .unrecognizedKind _ | .emptyGroup _ => .unrecognizedKind
  | .depthLimitExceeded _ => .depthLimitExceeded

/-- The name, token or operand of the expression that a fault is about. -/
def identifier? : CompileFault → Option String
  | .unknownProperty name | .unknownRelationship name | .unknownType name => some name
  | .unsupportedOperator operator _ => some operator.token
  | .unrecognizedKind kind => some kind
  | .invalidLiteral _ value => some value
  | .namingUnsupported | .insightsUnsupported | .unsupportedConstant _ | .emptyGroup _
  | .depthLimitExceeded _ => none

end CompileFault

end QueryTree
