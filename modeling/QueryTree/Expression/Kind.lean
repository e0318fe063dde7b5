import QueryTree.Vocabulary

/-! The kinds of expression nodes, and the two ways a group combines its members. -/

namespace QueryTree

/-- How the members of a group are combined. -/
inductive Combiner where
  | and
  | or
deriving DecidableEq

namespace Combiner

/-- The token of a combiner in a stored expression. -/
def token : Combiner → String
  | .and => "and"
  | .or => "or"

/-- The symbol that joins the members in generated code. -/
def symbol : Combiner → String
  | .and => "&&"
  | .or => "||"

end Combiner

instance : Vocabulary Combiner where
  noun := "combiner"
  all := [.and, .or]
  token := Combiner.token

/-- The kind of an expression node. -/
inductive ExpressionKind where
  | boolean
  | property
  | relationship
  | negatedRelationship
  | name
  | hasInsight
  | negatedHasInsight
  | typeSwitch
deriving DecidableEq

/-- The tag of a node of this kind in a stored expression. -/
def ExpressionKind.token : ExpressionKind → String
  | .boolean => "boolean"
  | .property => "property"
  | .relationship => "relationship"
  | .negatedRelationship => "negatedRelationship"
  | .name => "name"
  | .hasInsight => "hasInsight"
  | .negatedHasInsight => "negatedHasInsight"
  | .typeSwitch => "typeSwitch"

instance : Vocabulary ExpressionKind where
  noun := "expression kind"
  all := [.boolean, .property, .relationship, .negatedRelationship, .name, .hasInsight,
    .negatedHasInsight, .typeSwitch]
  token := ExpressionKind.token

end QueryTree
