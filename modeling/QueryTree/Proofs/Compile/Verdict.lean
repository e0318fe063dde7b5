import QueryTree.Proofs.Compile.Node
import QueryTree.Proofs.Expression.Induction

/-! Whether an expression compiles, and with which fault it does not, is the same for all subjects:
the subject is only ever written into the code, never looked at, unless the functions that write a
relationship look at it.
-/

namespace QueryTree

/-- What an operand is compared with does not matter for whether it can be compared. -/
theorem DataType.verdict_compare (dataType : DataType) (left right : Term) (operator : Operator)
    (operand : String)
    : verdict (dataType.compare left operator operand)
      = verdict (dataType.compare right operator operand) := by
  unfold compare
  cases dataType.findOperator operator with
  | error fault => rfl
  | ok entry =>
      cases h : Literal.read (entry.operandTypeFor dataType) operand entry.stereotype with
      | error fault => simp [h]
      | ok literal => simp [h, verdict, Except.map]

namespace Compiler

/-- A test looks at its subject in no other way than to compare it. -/
theorem verdict_propertyTest (type : ObjectType) (left right : Term) (id : String)
    (operator : Operator) (operand : String)
    : verdict (propertyTest type left id operator operand)
      = verdict (propertyTest type right id operator operand) := by
  unfold propertyTest
  cases type.property? id with
  | none => rfl
  | some property => exact DataType.verdict_compare ..

theorem verdict_nameTest (type : ObjectType) (left right : Term) (operator : Operator)
    (operand : String)
    : verdict (nameTest type left operator operand)
      = verdict (nameTest type right operator operand) := by
  unfold nameTest
  cases type.naming with
  | none => rfl
  | some naming => exact DataType.verdict_compare ..

theorem verdict_insightTest (type : ObjectType) (left right : Term) (badge : String)
    : verdict (insightTest type left badge) = verdict (insightTest type right badge) := by
  unfold insightTest
  cases type.hasInsights with
  | false => rfl
  | true => simp only [↓reduceIte, verdict_map]

theorem verdict_members {compiler : Compiler} {type : ObjectType} {left right : Term}
    {depth : Nat} {members : List Expression}
    (each
      : ∀ member ∈ members,
          verdict (compiler.node type left depth member)
          = verdict (compiler.node type right depth member))
    : verdict (compiler.members type left depth members)
      = verdict (compiler.members type right depth members) := by
  induction members with
  | nil => rw [Compiler.members, Compiler.members]
  | cons member rest ih =>
      rw [Compiler.members, Compiler.members]
      refine verdict_bind (each member List.mem_cons_self) fun _ _ => ?_
      exact verdict_bind (ih fun other present => each other (List.mem_cons_of_mem _ present))
        fun _ _ => rfl

/-- A test of related entities has the same verdict for all subjects if its query has, and if what
it is written by does not look at them.
-/
theorem verdict_relationshipTest {compiler : Compiler} {relationship : Relationship}
    (blind : relationship.Blind) {left right : Term} {depth : Nat} {query : Option Expression}
    (below
      : ∀ inner, query = some inner → ∀ type one two,
          compiler.schema.require relationship.target = .ok type
          → verdict (compiler.node type one (depth + 1) inner)
            = verdict (compiler.node type two (depth + 1) inner))
    : verdict (compiler.relationshipTest relationship left depth query)
      = verdict (compiler.relationshipTest relationship right depth query) := by
  cases query with
  | none => rw [relationshipTest, relationshipTest]; rfl
  | some inner =>
      rw [relationshipTest, relationshipTest]
      cases known : compiler.schema.require relationship.target with
      | error fault => rfl
      | ok target => exact blind _ _ _ _ fun one two => below inner rfl target one two known

/-- An expression has the same verdict for all subjects, by induction on the expression. -/
theorem verdict_node {compiler : Compiler} (blind : compiler.schema.Blind) {type : ObjectType}
    (blindType : type.Blind) (left right : Term) (depth : Nat) (expression : Expression)
    : verdict (compiler.node type left depth expression)
      = verdict (compiler.node type right depth expression) := by
  induction expression generalizing type left right depth with
  | boolean combiner members ih =>
      unfold node
      split
      · rfl
      cases members with
      | nil => rfl
      | cons member rest =>
          refine verdict_bind (ih member List.mem_cons_self blindType ..) fun _ _ => ?_
          have after := verdict_members fun other present =>
            ih other (List.mem_cons_of_mem _ present) blindType left right (depth + 1)
          exact verdict_bind after fun _ _ => rfl
  | property id operator operand =>
      unfold node
      split
      · rfl
      exact verdict_propertyTest ..
  | relationship negated id query ih =>
      unfold node
      split
      · rfl
      cases h : type.relationship? id with
      | none => simp [h]
      | some relationship =>
          simp only [h, verdict_map]
          have declared := List.mem_of_find?_eq_some h
          refine verdict_relationshipTest (blindType _ declared)
            fun inner same target _ _ known => ?_
          exact ih inner same (blind.of_require known) ..
  | name operator operand =>
      unfold node
      split
      · rfl
      exact verdict_nameTest ..
  | insight negated badge =>
      unfold node
      split
      · rfl
      simp only [verdict_map]
      exact verdict_insightTest ..
  | typeSwitch arms ih =>
      unfold node
      split
      · rfl
      cases arms with
      | nil => rfl
      -- Arms are compiled for the narrowed subject, so nothing is asked of the induction here.
      | cons arm rest => exact verdict_bind rfl fun _ _ => verdict_bind rfl fun _ _ => rfl

end Compiler

end QueryTree
