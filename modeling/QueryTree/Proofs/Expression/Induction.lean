import QueryTree.Expression.Basic

/-! Induction over expressions. Members of a group and queries of relationships and arms are reached
through lists and options; one principle with a case for each kind of node hides them.
-/

namespace QueryTree.Expression

/-- What passes from the members and queries of every node to the node holds of every expression,
by recursion on its size.
-/
@[elab_as_elim, induction_eliminator]
theorem nodeInduction {motive : Expression → Prop}
    (boolean
      : ∀ combiner members,
          (∀ member ∈ members, motive member) → motive (.boolean combiner members))
    (property : ∀ id operator operand, motive (.property id operator operand))
    (relationship
      : ∀ negated id query,
          (∀ inner, query = some inner → motive inner)
          → motive (.relationship negated id query))
    (name : ∀ operator operand, motive (.name operator operand))
    (insight : ∀ negated badge, motive (.insight negated badge))
    (typeSwitch
      : ∀ arms,
          (∀ selector query, TypeArm.arm selector (some query) ∈ arms → motive query)
          → motive (.typeSwitch arms))
    (expression : Expression)
    : motive expression := by
  -- The motive is passed down unchanged, so every recursive call only names a smaller expression.
  have below (inner : Expression) (_ : sizeOf inner < sizeOf expression) : motive inner :=
    nodeInduction boolean property relationship name insight typeSwitch inner
  cases expression with
  | boolean combiner members =>
      refine boolean combiner members fun member present => below member ?_
      have smaller := List.sizeOf_lt_of_mem present
      simp only [Expression.boolean.sizeOf_spec]
      omega
  | property id operator operand => exact property id operator operand
  | relationship negated id query =>
      refine relationship negated id query fun inner found => below inner ?_
      subst found
      simp only [Expression.relationship.sizeOf_spec, Option.some.sizeOf_spec]
      omega
  | name operator operand => exact name operator operand
  | insight negated badge => exact insight negated badge
  | typeSwitch arms =>
      refine typeSwitch arms fun selector query present => below query ?_
      have smaller := List.sizeOf_lt_of_mem present
      simp only [TypeArm.arm.sizeOf_spec, Option.some.sizeOf_spec] at smaller
      simp only [Expression.typeSwitch.sizeOf_spec]
      omega
termination_by sizeOf expression

end QueryTree.Expression
