import QueryTree.Expression.Basic
import QueryTree.Operator.Table
import QueryTree.Proofs.Meaning.World
import QueryTree.Schema.Basic

/-! What expressions mean, without any code: whether an entity of a world satisfies an expression.
No variables occur here; every part of an expression is asked of an entity that is at hand.
-/

namespace QueryTree

-----------------------------------------------------------------------------------------
-- What operators and tests mean
-----------------------------------------------------------------------------------------

namespace World

variable (world : World)

def queryTime : Value world.Item :=
  world.function "Dates.queryTime" []

/-- The time a number of days after the evaluation of the predicate. -/
def daysFromQueryTime (days : Value world.Item) : Value world.Item :=
  world.function "Dates.add" [world.literal (.text "day"), days, world.queryTime]

end World

/-- Whether an operator holds between two values. -/
def Operator.meaning (world : World) (left right : Value world.Item) : Operator → Bool
  | .equal => world.relation "==" left right
  | .notEqual => world.relation "!=" left right
  | .greater => world.relation ">" left right
  | .greaterOrEqual => world.relation ">=" left right
  | .lessOrEqual => world.relation "<=" left right
  | .less => world.relation "<" left right
  | .contains => (world.function "Strings.contains" [left, right]).holds
  | .notContains => !(world.function "Strings.contains" [left, right]).holds
  | .startsWith => (world.function "Strings.startsWith" [left, right]).holds
  | .endsWith => (world.function "Strings.endsWith" [left, right]).holds
  | .notStartsWith => !(world.function "Strings.startsWith" [left, right]).holds
  | .notEndsWith => !(world.function "Strings.endsWith" [left, right]).holds
  | .inTheLast =>
      world.relation "<=" left world.queryTime
        && world.relation ">=" left (world.daysFromQueryTime (world.minus right))
  | .notInTheLast => world.relation "<" left (world.daysFromQueryTime (world.minus right))
  | .inTheNext =>
      world.relation ">=" left world.queryTime
        && world.relation "<=" left (world.daysFromQueryTime right)
  | .notInTheNext => world.relation ">" left (world.daysFromQueryTime right)
  -- Of lists, which operands are compared with element by element
  | .includes => left.items.any fun item => world.relation "==" (.ofItem item) right
  | .notIncludes => !left.items.any fun item => world.relation "==" (.ofItem item) right

/-- Whether an operator holds between a value of a data type and an operand as it is written. An
operator that the data type does not support never holds, nor does one whose operand is no literal.
-/
def DataType.meaning (world : World) (dataType : DataType) (value : Value world.Item)
    (operator : Operator) (operand : String)
    : Bool :=
  match dataType.findOperator operator with
  | .error _ => false
  | .ok entry =>
      match Literal.read (entry.operandTypeFor dataType) operand entry.stereotype with
      | .error _ => false
      | .ok literal => operator.meaning world value (world.literal literal)

/-- Whether some insight of an entity has a badge. -/
def World.hasInsight (world : World) (item : world.Item) (badge : String) : Bool :=
  (world.member item "insights").items.any fun insight =>
    world.relation "==" (.ofMember (world.member insight "badge")) (world.literal (.text badge))

def TypeArm.selector : TypeArm → String
  | .arm selector _ => selector

-----------------------------------------------------------------------------------------
-- What expressions mean
-----------------------------------------------------------------------------------------

namespace Expression

mutual

/-- Whether an entity satisfies an expression that is asked of entities of an object type. Where a
name that is looked up is not there, nothing is satisfied.
-/
def meaning (world : World) (schema : Schema) (type : ObjectType)
    : Expression → world.Item → Bool
  | .boolean .and members, item => allMean world schema type members item
  | .boolean .or members, item => someMeans world schema type members item
  | .property id operator operand, item =>
      match type.property? id with
      | none => false
      | some declared =>
          declared.dataType.meaning world (.ofMember (world.member item id)) operator operand
  | .relationship negated id query, item =>
      match type.relationship? id with
      | none => false
      | some declared =>
          negated ^^ relatedMeans world schema declared query (world.member item id)
  | .name operator operand, item =>
      match type.naming with
      | some (.member id) =>
          DataType.string.meaning world (.ofMember (world.member item id)) operator operand
      | _ => false
  | .insight negated badge, item => negated ^^ world.hasInsight item badge
  | .typeSwitch arms, item => armsMean world schema arms item
termination_by structural expression => expression

def allMean (world : World) (schema : Schema) (type : ObjectType)
    : List Expression → world.Item → Bool
  | [], _ => true
  | expression :: rest, item =>
      expression.meaning world schema type item && allMean world schema type rest item
termination_by structural expressions => expressions

def someMeans (world : World) (schema : Schema) (type : ObjectType)
    : List Expression → world.Item → Bool
  | [], _ => false
  | expression :: rest, item =>
      expression.meaning world schema type item || someMeans world schema type rest item
termination_by structural expressions => expressions

/-- Whether what a relationship leads to satisfies the query: some entity of a collection does, or
the one related entity is there and does. Without a query it is enough that there is an entity.
-/
def relatedMeans (world : World) (schema : Schema) (relationship : Relationship)
    : Option Expression → Member world.Item → Bool
  | none, found =>
      match relationship.shape with
      | .collection => !found.items.isEmpty
      | .singular => found.item?.isSome
      | .written _ _ => false
  | some query, found =>
      match schema.get? relationship.target, relationship.shape with
      | some target, .collection => found.items.any (query.meaning world schema target)
      | some target, .singular => found.item?.any (query.meaning world schema target)
      | _, _ => false
termination_by structural query => query

/-- Whether an entity has the type of some arm and satisfies the first such arm. -/
def armsMean (world : World) (schema : Schema) : List TypeArm → world.Item → Bool
  | [], _ => false
  | arm :: rest, item =>
      if world.hasType item (arm.selector) then armMeans world schema arm item
      else armsMean world schema rest item
termination_by structural arms => arms

/-- Whether an entity of the type of an arm satisfies its query, if there is one. -/
def armMeans (world : World) (schema : Schema) : TypeArm → world.Item → Bool
  | .arm selector query, item => guardMeans world schema selector query item
termination_by structural arm => arm

/-- Whether an entity of the type called `selector` satisfies a query, if there is one. -/
def guardMeans (world : World) (schema : Schema) (selector : String)
    : Option Expression → world.Item → Bool
  | none, _ => true
  | some query, item =>
      match schema.get? selector with
      | none => false
      | some type => query.meaning world schema type item
termination_by structural query => query

end

section meaning

variable {world : World} {schema : Schema} {type : ObjectType} {item : world.Item}

-----------------------------------------------------------------------------------------
-- What each kind of expression asks where the names that it looks up are there
-----------------------------------------------------------------------------------------

theorem meaning_and_cons (first : Expression) (rest : List Expression)
    : (boolean .and (first :: rest)).meaning world schema type item
      = (first.meaning world schema type item
          && (boolean .and rest).meaning world schema type item) :=
  rfl

theorem meaning_or_cons (first : Expression) (rest : List Expression)
    : (boolean .or (first :: rest)).meaning world schema type item
      = (first.meaning world schema type item
          || (boolean .or rest).meaning world schema type item) :=
  rfl

theorem meaning_insight (negated : Bool) (badge : String)
    : (insight negated badge).meaning world schema type item
      = (negated ^^ world.hasInsight item badge) :=
  rfl

theorem meaning_property {id : String} {declared : Property}
    (found : type.property? id = some declared) (operator : Operator) (operand : String)
    : (property id operator operand).meaning world schema type item
      = declared.dataType.meaning world (.ofMember (world.member item id)) operator operand := by
  show (match type.property? id with
    | none => false
    | some declared => declared.dataType.meaning world _ operator operand) = _
  rw [found]

theorem meaning_relationship {id : String} {declared : Relationship}
    (found : type.relationship? id = some declared) (negated : Bool) (query : Option Expression)
    : (relationship negated id query).meaning world schema type item
      = (negated ^^ relatedMeans world schema declared query (world.member item id)) := by
  show (match type.relationship? id with
    | none => false
    | some declared => negated ^^ relatedMeans world schema declared query _) = _
  rw [found]

theorem meaning_name {id : String} (named : type.naming = some (.member id)) (operator : Operator)
    (operand : String)
    : (name operator operand).meaning world schema type item
      = DataType.string.meaning world (.ofMember (world.member item id)) operator operand := by
  show (match type.naming with
    | some (.member id) => DataType.string.meaning world _ operator operand
    | _ => false) = _
  rw [named]

theorem relatedMeans_none (declared : Relationship) (found : Member world.Item)
    : relatedMeans world schema declared none found
      = match declared.shape with
        | .collection => !found.items.isEmpty
        | .singular => found.item?.isSome
        | .written _ _ => false :=
  rfl

theorem relatedMeans_some {declared : Relationship} {target : ObjectType}
    (known : schema.get? declared.target = some target) (query : Expression)
    (found : Member world.Item)
    : relatedMeans world schema declared (some query) found
      = match declared.shape with
        | .collection => found.items.any (query.meaning world schema target)
        | .singular => found.item?.any (query.meaning world schema target)
        | .written _ _ => false := by
  show (match schema.get? declared.target, declared.shape with
    | some target, .collection => found.items.any (query.meaning world schema target)
    | some target, .singular => found.item?.any (query.meaning world schema target)
    | _, _ => false) = _
  rw [known]
  cases declared.shape <;> rfl

theorem armsMean_cons (arm : TypeArm) (rest : List TypeArm)
    : armsMean world schema (arm :: rest) item
      = if world.hasType item arm.selector then armMeans world schema arm item
        else armsMean world schema rest item :=
  rfl

theorem armMeans_none (selector : String)
    : armMeans world schema (.arm selector none) item = true :=
  rfl

theorem armMeans_some {selector : String} (known : schema.get? selector = some type)
    (query : Expression)
    : armMeans world schema (.arm selector (some query)) item
      = query.meaning world schema type item := by
  show (match schema.get? selector with
    | none => false
    | some type => query.meaning world schema type item) = _
  rw [known]

end meaning

end Expression

end QueryTree
