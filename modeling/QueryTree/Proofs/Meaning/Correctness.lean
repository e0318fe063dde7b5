import QueryTree.Proofs.Compile.Node
import QueryTree.Proofs.Expression.Induction
import QueryTree.Proofs.Meaning.Basic
import QueryTree.Proofs.Operator.Shape
import QueryTree.Proofs.Schema.Plain

/-! Generated code means what its expression means. The variable of a collection, of a type switch
and of a list are the same at every depth; that the code still asks each question of the right
entity is what evaluating its subject in the current environment says.
-/

namespace QueryTree

variable {world : World}

namespace World

/-- A variable is read as what was bound to it last. -/
@[simp]
theorem Environment.bind_self (environment : world.Environment) (binder : String)
    (item : world.Item)
    : environment.bind binder item binder = some item :=
  if_pos rfl

@[simp]
theorem memberOf_ofItem (item : world.Item) (id : String)
    : world.memberOf (.ofMember (.one (some item))) id = .ofMember (world.member item id) :=
  rfl

end World

/-- A term stands for an item in an environment. -/
def Term.StandsFor (environment : world.Environment) (subject : Term) (item : world.Item) : Prop :=
  subject.eval world environment = .ofMember (.one (some item))

theorem Term.StandsFor.eval_member {environment : world.Environment} {subject : Term}
    {item : world.Item} (stands : subject.StandsFor environment item) (id : String)
    : (Term.member subject id).eval world environment = .ofMember (world.member item id) := by
  rw [Term.eval_member, stands, World.memberOf_ofItem]

theorem Term.standsFor_bind (environment : world.Environment) (binder : String) (item : world.Item)
    : (Term.name binder).StandsFor (environment.bind binder item) item := by
  rw [StandsFor, eval_name, World.Environment.bind_self]

/-- The code of an operator between a term and a literal holds where the operator does, operator by
operator.
-/
theorem Operator.holds_apply (operator : Operator) (environment : world.Environment) (left : Term)
    (literal : Literal)
    : ((operator.shape.apply left (.literal literal)).eval world environment).holds
      = operator.meaning world (left.eval world environment) (world.literal literal) := by
  cases operator <;>
    simp [Operator.shape, Operator.meaning, OperatorShape.apply, OperatorShape.signed,
      OperatorShape.elementName, Term.queryTime, Term.daysFromQueryTime, Term.text,
      World.queryTime, World.daysFromQueryTime, Value.ofItem]

/-- A comparison that compiles holds where its operator holds for what the literal stands for. -/
theorem DataType.holds_generate {dataType : DataType} {operator : Operator} {operand : String}
    {entry : OperatorEntry} {literal : Literal}
    (supported : dataType.findOperator operator = .ok entry)
    (read : Literal.read (entry.operandTypeFor dataType) operand entry.stereotype = .ok literal)
    (environment : world.Environment) (left : Term)
    : ((entry.generate left (.literal literal)).eval world environment).holds
      = dataType.meaning world (left.eval world environment) operator operand := by
  rw [OperatorEntry.generate, shape_of_findOperator supported, Operator.holds_apply]
  simp only [meaning, supported, read]

namespace Compiler

theorem holds_negateIf (environment : world.Environment) (negated : Bool) (term : Term)
    : ((negateIf negated term).eval world environment).holds
      = (negated ^^ (term.eval world environment).holds) := by
  cases negated with
  | false => exact (Bool.false_xor _).symm
  | true => simp [negateIf, Term.negation]

theorem holds_existing {relationship : Relationship}
    (plain : relationship.shape = .collection ∨ relationship.shape = .singular) (schema : Schema)
    {environment : world.Environment} {subject : Term} {item : world.Item}
    (stands : subject.StandsFor environment item)
    : ((relationship.existing subject).eval world environment).holds
      = Expression.relatedMeans world schema relationship none
          (world.member item relationship.id) := by
  have reads : subject.eval world environment = .ofMember (.one (some item)) := stands
  rcases plain with shape | shape
  · simp [Relationship.existing, Relationship.related, Expression.relatedMeans_none, shape, reads]
  · simp [Relationship.existing, Relationship.related, Expression.relatedMeans_none, shape,
      Term.present, reads]

/-- The test that some related entity satisfies a query holds where some related entity does. The
query was compiled for what the relationship chooses: the variable of a collection, or the member
itself.
-/
theorem holds_wrapping {schema : Schema} {relationship : Relationship} {target : ObjectType}
    (known : schema.get? relationship.target = some target) {environment : world.Environment}
    {subject nested : Term} {item : world.Item} (stands : subject.StandsFor environment item)
    {wrapping : Wrapping} (wraps : relationship.wrapping? subject = some wrapping)
    {query : Expression}
    (below
      : ∀ (within : world.Environment) found,
          wrapping.inner.StandsFor within found
          → (nested.eval world within).holds = query.meaning world schema target found)
    : ((wrapping.around nested).eval world environment).holds
      = Expression.relatedMeans world schema relationship (some query)
          (world.member item relationship.id) := by
  obtain ⟨shape, rfl⟩ | ⟨shape, rfl⟩ := Relationship.shape_of_wrapping? wraps
  · -- The variable may hide one of the same name, but inside the query only this one is asked for.
    have bound (found : world.Item)
        : (Term.name Relationship.elementName).StandsFor
            (environment.bind Relationship.elementName found) found :=
      Term.standsFor_bind ..
    simp only [Wrapping.anyOf, Relationship.related, Expression.relatedMeans_some known, shape,
      Term.eval_any, stands.eval_member, Value.holds_truth, Value.items_ofMember]
    exact congrArg (List.any _) (funext fun found => below _ found (bound found))
  · simp only [Wrapping.oneOf, Relationship.related, Expression.relatedMeans_some known,
      shape, Term.present, Term.eval_group, Term.eval_and, Term.allHold_cons, Term.allHold_nil,
      Term.eval_not, stands.eval_member, Value.holds_truth, Value.holds_ofMember, Bool.not_not,
      Bool.and_true]
    -- The query is only asked where the member holds an item, which its subject then stands for.
    cases held : world.member item relationship.id with
    | many found => rfl
    | one found =>
        cases found with
        | none => rfl
        | some found =>
            have inside : (relationship.related subject).StandsFor environment found := by
              rw [Relationship.related, Term.StandsFor, stands.eval_member, held]
            simpa [Member.item?] using below environment found inside

/-- Members that each hold where they are satisfied do so together, by induction on the members. -/
theorem holds_connect {compiler : Compiler} {type : ObjectType} {subject : Term} {depth : Nat}
    {members : List Expression} {terms : List Term}
    (compiled
      : List.Forall₂ (fun member term => compiler.node type subject depth member = .ok term)
          members terms)
    {environment : world.Environment} {item : world.Item}
    (each
      : ∀ member ∈ members, ∀ term,
          compiler.node type subject depth member = .ok term
          → (term.eval world environment).holds = member.meaning world compiler.schema type item)
    (combiner : Combiner)
    : ((Term.connect combiner terms).eval world environment).holds
      = (Expression.boolean combiner members).meaning world compiler.schema type item := by
  induction compiled with
  | nil => cases combiner <;> rfl
  | cons first rest ih =>
      have here := each _ List.mem_cons_self _ first
      have after := ih fun member present => each member (List.mem_cons_of_mem _ present)
      cases combiner with
      | and =>
          rw [Term.eval_and, Value.holds_truth] at after ⊢
          rw [Term.allHold_cons, Expression.meaning_and_cons, here, after]
      | or =>
          rw [Term.eval_or, Value.holds_truth] at after ⊢
          rw [Term.someHold_cons, Expression.meaning_or_cons, here, after]

/-- The code of an arm holds where its guard does, since the narrowed subject is always there. -/
theorem holds_narrowed {environment : world.Environment} {item : world.Item}
    (bound : environment narrowedName = some item) (guard : Term)
    : ((narrowed guard).eval world environment).holds = (guard.eval world environment).holds := by
  simp [narrowed, Term.present, bound, Member.item?]

/-- A choice among arms holds for an item where the first arm of one of its types is satisfied, by
induction on the arms.
-/
theorem chosenHolds_eq {compiler : Compiler} {depth : Nat} {arms : List TypeArm}
    {terms : List (String × Term)}
    (compiled : List.Forall₂ (compiler.ArmTerm depth) arms terms)
    {environment : world.Environment} {item : world.Item}
    (bound : environment narrowedName = some item)
    (each
      : ∀ selector query, TypeArm.arm selector (some query) ∈ arms → ∀ type guard,
          compiler.schema.require selector = .ok type
          → compiler.node type (.name narrowedName) (depth + 1) query = .ok guard
          → (guard.eval world environment).holds = query.meaning world compiler.schema type item)
    : Term.chosenHolds world environment item terms
      = Expression.armsMean world compiler.schema arms item := by
  induction compiled with
  | nil => rfl
  | @cons arm term _ _ first rest ih =>
      have after := ih fun selector query present =>
        each selector query (List.mem_cons_of_mem _ present)
      have here
          : term.1 = arm.selector
            ∧ Term.armHolds world environment term
              = Expression.armMeans world compiler.schema arm item := by
        cases first with
        | always found =>
            refine ⟨rfl, ?_⟩
            rw [Term.armHolds_mk, holds_narrowed bound, Expression.armMeans_none]
            rfl
        | guarded found holds =>
            refine ⟨rfl, ?_⟩
            rw [Term.armHolds_mk, holds_narrowed bound,
              each _ _ List.mem_cons_self _ _ found holds,
              Expression.armMeans_some (Schema.require_eq_ok.mp found)]
      rw [Term.chosenHolds_cons, Expression.armsMean_cons, here.1, here.2, after]

/-- The term of an expression holds where the expression is satisfied by what its subject stands
for, by induction on the expression.
-/
theorem holds_node {compiler : Compiler} (plain : compiler.schema.Plain) {type : ObjectType}
    (plainType : type.Plain) {environment : world.Environment} {subject : Term}
    {item : world.Item} (stands : subject.StandsFor environment item) {depth : Nat}
    {expression : Expression} {term : Term}
    (compiled : compiler.node type subject depth expression = .ok term)
    : (term.eval world environment).holds
      = expression.meaning world compiler.schema type item := by
  induction expression generalizing type environment subject item depth term with
  | boolean combiner members ih =>
      cases (node_eq_ok.mp compiled).2 with
      | boolean nonempty each =>
          exact holds_connect each
            (fun member present _ done => ih member present plainType stands done) combiner
  | property id operator operand =>
      cases (node_eq_ok.mp compiled).2 with
      | property found supported read =>
          rw [DataType.holds_generate supported read, Property.access,
            plainType.accessor_of_property? found, Accessor.read, stands.eval_member,
            Expression.meaning_property found]
  | relationship negated id query ih =>
      cases (node_eq_ok.mp compiled).2 with
      | existing found =>
          have shape := plainType.shape_of_relationship? found
          rw [holds_negateIf, holds_existing shape compiler.schema stands,
            ObjectType.id_of_relationship? found, Expression.meaning_relationship found]
      | matching found known wraps holds =>
          rw [holds_negateIf,
            holds_wrapping (Schema.require_eq_ok.mp known) stands wraps fun _ _ inside =>
              ih _ rfl (plain.of_require known) inside holds,
            ObjectType.id_of_relationship? found, Expression.meaning_relationship found]
      | written found _ free => exact absurd free (plainType.wrapping?_ne_none found _)
  | name operator operand =>
      cases (node_eq_ok.mp compiled).2 with
      | name named supported read =>
          obtain ⟨id, rfl⟩ := plainType.naming _ named
          rw [DataType.holds_generate supported read, Accessor.read, stands.eval_member,
            Expression.meaning_name named]
  | insight negated badge =>
      cases (node_eq_ok.mp compiled).2 with
      | insight capable =>
          -- The subject is read before the insight is bound, so its own variables are not hidden.
          rw [holds_negateIf, Term.eval_any, stands.eval_member, Expression.meaning_insight]
          simp [World.hasInsight, ObjectType.insightsId, World.memberOf, Member.item?]
  | typeSwitch arms ih =>
      cases (node_eq_ok.mp compiled).2 with
      | typeSwitch nonempty each =>
          -- Inside the arms the narrowed subject stands for the entity that the subject stood for.
          have chosen := chosenHolds_eq each
            (World.Environment.bind_self environment narrowedName item)
            fun selector query present type _ found holds =>
              ih selector query present (plain.of_require found) (Term.standsFor_bind ..) holds
          rw [Term.eval_group, Term.eval_choose world environment stands]
          exact chosen

end Compiler

end QueryTree
