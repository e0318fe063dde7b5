import QueryTree.Proofs.Code.Surface
import QueryTree.Proofs.Compile.Node
import QueryTree.Proofs.Expression.Induction
import QueryTree.Proofs.Operator.Shape
import QueryTree.Proofs.Schema.Plain

/-! Compilation stays within the grammar of generated code. Subjects are identifiers or members, and
every node becomes a term that can be joined by "and" without parentheses.
-/

namespace QueryTree

/-- The code of an operator between a subject and a literal belongs to the language, operator by
operator.
-/
theorem Operator.surface_apply {left : Term} (subject : left.Surface 0) (literal : Literal)
    (operator : Operator)
    : (operator.shape.apply left (.literal literal)).Surface 3 := by
  have value : left.Surface 1 := subject.mono (by decide)
  have compared {symbol : String} (known : symbol ∈ Term.symbols) {right : Term}
      (surface : right.Surface 1)
      : (Term.compare left symbol right).Surface 3 :=
    .compare (by decide) known value surface
  have called {function : String} (known : (function, 2) ∈ Term.functions) (level : Nat)
      : (Term.call function [left, .literal literal]).Surface level := by
    refine .call known fun argument member => ?_
    simp only [List.mem_cons, List.not_mem_nil, or_false] at member
    rcases member with rfl | rfl
    · exact subject.mono (by decide)
    · exact .literal
  have listed (level : Nat)
      : (Term.any left OperatorShape.elementName
          (.compare (.name OperatorShape.elementName) "==" (.literal literal))).Surface level :=
    .any subject (by decide)
      (.compare (by decide) (by decide) (.name (by decide)) .literal)
  have past : (Term.daysFromQueryTime (.minus (.literal literal))).Surface 1 :=
    .daysFromQueryTime (.minus (by decide) .literal)
  have future : (Term.daysFromQueryTime (.literal literal)).Surface 1 :=
    .daysFromQueryTime .literal
  cases operator with
  | equal => exact compared (by decide) .literal
  | notEqual => exact compared (by decide) .literal
  | greater => exact compared (by decide) .literal
  | greaterOrEqual => exact compared (by decide) .literal
  | lessOrEqual => exact compared (by decide) .literal
  | less => exact compared (by decide) .literal
  | contains => exact called (by decide) 3
  | startsWith => exact called (by decide) 3
  | endsWith => exact called (by decide) 3
  | notContains => exact .not (by decide) (called (by decide) 1)
  | notStartsWith => exact .not (by decide) (called (by decide) 1)
  | notEndsWith => exact .not (by decide) (called (by decide) 1)
  | inTheLast =>
      have upper : (Term.compare left "<=" Term.queryTime).Surface 5 :=
        (compared (by decide) Term.surface_queryTime).mono (by decide)
      have lower : (Term.compare left ">=" (Term.daysFromQueryTime _)).Surface 5 :=
        (compared (by decide) past).mono (by decide)
      exact .and (by decide) (.group upper) (.group lower)
  | notInTheLast => exact compared (by decide) past
  | inTheNext =>
      have lower : (Term.compare left ">=" Term.queryTime).Surface 5 :=
        (compared (by decide) Term.surface_queryTime).mono (by decide)
      have upper : (Term.compare left "<=" (Term.daysFromQueryTime _)).Surface 5 :=
        (compared (by decide) future).mono (by decide)
      exact .and (by decide) (.group lower) (.group upper)
  | notInTheNext => exact compared (by decide) future
  | includes => exact listed 3
  | notIncludes => exact .not (by decide) (listed 1)

theorem DataType.surface_generate {dataType : DataType} {operator : Operator}
    {entry : OperatorEntry} (supported : dataType.findOperator operator = .ok entry) {left : Term}
    (subject : left.Surface 0) (literal : Literal)
    : (entry.generate left (.literal literal)).Surface 3 := by
  rw [OperatorEntry.generate, shape_of_findOperator supported]
  exact operator.surface_apply subject literal

namespace Compiler

/-- A negation belongs to the language, because of its parentheses. -/
theorem surface_negateIf {term : Term} (surface : term.Surface 3) (negated : Bool)
    : (negateIf negated term).Surface 3 := by
  cases negated with
  | false => exact surface
  | true => exact .not (by decide) (.group (surface.mono (by decide)))

/-- The test for related entities is a term of the language. -/
theorem surface_existing {relationship : Relationship}
    (plain : relationship.shape = .collection ∨ relationship.shape = .singular) {subject : Term}
    (surface : subject.Surface 0)
    : (relationship.existing subject).Surface 3 := by
  rcases plain with shape | shape
  · simp only [Relationship.existing, shape]
    exact .not (by decide) (.isEmpty (.member surface))
  · simp only [Relationship.existing, shape]
    exact .present (by decide) (.group (.member surface))

/-- A relationship compiles its query for a term of the language, and puts the language around it.
-/
theorem surface_wrapping {relationship : Relationship} {subject : Term} {wrapping : Wrapping}
    (wraps : relationship.wrapping? subject = some wrapping) (surface : subject.Surface 0)
    : wrapping.inner.Surface 0
      ∧ ∀ nested : Term, nested.Surface 3 → (wrapping.around nested).Surface 3 := by
  obtain ⟨_, rfl⟩ | ⟨_, rfl⟩ := Relationship.shape_of_wrapping? wraps
  · exact ⟨.name (by decide), fun nested holds =>
      .any (.member surface) (by decide) (holds.mono (by decide))⟩
  · exact ⟨.member surface, fun nested holds =>
      .group (.and (by decide) (.present (by decide) (.member surface)) holds)⟩

theorem surface_narrowed {guard : Term} (surface : guard.Surface 3)
    : (narrowed guard).Surface 4 :=
  .group (.and (by decide) (.present (by decide) (.name (by decide))) surface)

/-- An expression is compiled to a term of the language, by induction on the expression. -/
theorem surface_node {compiler : Compiler} (plain : compiler.schema.Plain) {type : ObjectType}
    (plainType : type.Plain) {subject : Term} (surface : subject.Surface 0) {depth : Nat}
    {expression : Expression} {term : Term}
    (compiled : compiler.node type subject depth expression = .ok term)
    : term.Surface 3 := by
  induction expression generalizing type subject depth term with
  | boolean combiner members ih =>
      cases (node_eq_ok.mp compiled).2 with
      | @boolean _ _ terms nonempty each =>
          have joined : ∀ part ∈ terms, part.Surface (Term.looseness combiner) := by
            intro part member
            obtain ⟨source, present, compiled⟩ := exists_of_mem_forall₂ each member
            -- Members bind as tightly as conjunctions, which is enough in either group.
            refine (ih source present plainType surface compiled).mono ?_
            cases combiner <;> decide
          refine .group (.connect ?_ ?_ joined)
          · cases combiner <;> decide
          · rintro rfl
            cases each
            exact nonempty rfl
  | property id operator operand =>
      cases (node_eq_ok.mp compiled).2 with
      | property found supported read =>
          rw [Property.access, plainType.accessor_of_property? found]
          exact DataType.surface_generate supported (.member surface) _
  | relationship negated id query ih =>
      cases (node_eq_ok.mp compiled).2 with
      | existing found =>
          have shape := plainType.shape_of_relationship? found
          exact surface_negateIf (surface_existing shape surface) negated
      | matching found known wraps holds =>
          obtain ⟨within, around⟩ := surface_wrapping wraps surface
          have nested := ih _ rfl (plain.of_require known) within holds
          exact surface_negateIf (around _ nested) negated
      | written found _ free => exact absurd free (plainType.wrapping?_ne_none found _)
  | name operator operand =>
      cases (node_eq_ok.mp compiled).2 with
      | name named supported read =>
          obtain ⟨id, rfl⟩ := plainType.naming _ named
          exact DataType.surface_generate supported (.member surface) _
  | insight negated badge =>
      cases (node_eq_ok.mp compiled).2 with
      | insight capable =>
          refine surface_negateIf (.any (.member surface) (by decide) ?_) negated
          exact .compare (by decide) (by decide) (.member (.name (by decide))) .literal
  | typeSwitch arms ih =>
      cases (node_eq_ok.mp compiled).2 with
      | @typeSwitch _ terms nonempty each =>
          have guarded : ∀ arm ∈ terms, arm.2.Surface 4 := by
            intro arm member
            obtain ⟨source, present, compiled⟩ := exists_of_mem_forall₂ each member
            cases compiled with
            | always found => exact surface_narrowed .literal
            | guarded found holds =>
                exact surface_narrowed
                  (ih _ _ present (plain.of_require found) (.name (by decide)) holds)
          refine .group (.choose (by decide) surface (by decide) ?_ guarded)
          rintro rfl
          cases each
          exact nonempty rfl

end Compiler

end QueryTree
