import QueryTree.Proofs.Expression.Induction
import QueryTree.Proofs.List

/-! The operands of an expression, and what is left of it without them. The badge of an insight test
counts as an operand.
-/

namespace QueryTree.Expression

mutual

/-- The operands of an expression, in document order. -/
def operands : Expression → List String
  | .boolean _ members => operandsOf members
  | .property _ _ operand => [operand]
  | .relationship _ _ query => queryOperands query
  | .name _ operand => [operand]
  | .insight _ badge => [badge]
  | .typeSwitch arms => armOperandsOf arms
termination_by structural expression => expression

def operandsOf : List Expression → List String
  | [] => []
  | expression :: rest => expression.operands ++ operandsOf rest
termination_by structural expressions => expressions

def queryOperands : Option Expression → List String
  | none => []
  | some query => query.operands
termination_by structural query => query

def armOperandsOf : List TypeArm → List String
  | [] => []
  | arm :: rest => armOperands arm ++ armOperandsOf rest
termination_by structural arms => arms

def armOperands : TypeArm → List String
  | .arm _ query => queryOperands query
termination_by structural arm => arm

end

mutual

/-- An expression with every operand left empty. -/
def outline : Expression → Expression
  | .boolean combiner members => .boolean combiner (outlines members)
  | .property id operator _ => .property id operator ""
  | .relationship negated id query => .relationship negated id (queryOutline query)
  | .name operator _ => .name operator ""
  | .insight negated _ => .insight negated ""
  | .typeSwitch arms => .typeSwitch (armOutlines arms)
termination_by structural expression => expression

def outlines : List Expression → List Expression
  | [] => []
  | expression :: rest => expression.outline :: outlines rest
termination_by structural expressions => expressions

def queryOutline : Option Expression → Option Expression
  | none => none
  | some query => some query.outline
termination_by structural query => query

def armOutlines : List TypeArm → List TypeArm
  | [] => []
  | arm :: rest => armOutline arm :: armOutlines rest
termination_by structural arms => arms

def armOutline : TypeArm → TypeArm
  | .arm selector query => .arm selector (queryOutline query)
termination_by structural arm => arm

end

theorem operandsOf_eq (members : List Expression) : operandsOf members = members.flatMap operands :=
  eq_flatMap rfl (fun _ _ => rfl) members

theorem armOperandsOf_eq (arms : List TypeArm) : armOperandsOf arms = arms.flatMap armOperands :=
  eq_flatMap rfl (fun _ _ => rfl) arms

theorem outlines_eq (members : List Expression) : outlines members = members.map outline :=
  eq_map rfl (fun _ _ => rfl) members

theorem armOutlines_eq (arms : List TypeArm) : armOutlines arms = arms.map armOutline :=
  eq_map rfl (fun _ _ => rfl) arms

theorem length_operandsOf_outlines {members : List Expression}
    (each : ∀ member ∈ members, member.outline.operands.length = member.operands.length)
    : (operandsOf (outlines members)).length = (operandsOf members).length := by
  rw [outlines_eq, operandsOf_eq, operandsOf_eq, List.flatMap_map, List.length_flatMap,
    List.length_flatMap, List.map_congr_left each]

theorem length_armOperandsOf_armOutlines {arms : List TypeArm}
    (each : ∀ arm ∈ arms, (armOperands (armOutline arm)).length = (armOperands arm).length)
    : (armOperandsOf (armOutlines arms)).length = (armOperandsOf arms).length := by
  rw [armOutlines_eq, armOperandsOf_eq, armOperandsOf_eq, List.flatMap_map, List.length_flatMap,
    List.length_flatMap, List.map_congr_left each]

/-- Leaving operands empty keeps their number, by induction on the expression. -/
theorem length_operands_outline (expression : Expression)
    : expression.outline.operands.length = expression.operands.length := by
  induction expression with
  | boolean combiner members ih => exact length_operandsOf_outlines ih
  | property id operator operand => rfl
  | relationship negated id query ih =>
      cases query with
      | none => rfl
      | some inner => exact ih inner rfl
  | name operator operand => rfl
  | insight negated badge => rfl
  | typeSwitch arms ih =>
      refine length_armOperandsOf_armOutlines fun ⟨selector, query⟩ present => ?_
      cases query with
      | none => rfl
      | some inner => exact ih selector inner present

theorem length_operands_eq_of_outline_eq {left right : Expression}
    (same : left.outline = right.outline)
    : left.operands.length = right.operands.length := by
  rw [← length_operands_outline left, same, length_operands_outline right]

end QueryTree.Expression
