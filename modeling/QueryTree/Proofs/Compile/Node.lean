import QueryTree.Compile.Basic
import QueryTree.Proofs.List
import QueryTree.Proofs.Schema.Member

/-! What compilation makes of a node, said once. Every way in which a node can succeed is a
constructor of `NodeTerm`, with all that was looked up and checked on the way; what holds of all
generated code is read off these constructors and never off the compiler itself.
-/

namespace QueryTree

/-- A comparison succeeds exactly where the operator is in the table and the operand is a literal
of its type.
-/
theorem DataType.compare_eq_ok {dataType : DataType} {value : Term} {operator : Operator}
    {operand : String} {term : Term}
    : dataType.compare value operator operand = .ok term
      ↔ ∃ entry literal,
          dataType.findOperator operator = .ok entry
          ∧ Literal.read (entry.operandTypeFor dataType) operand entry.stereotype = .ok literal
          ∧ entry.generate value (.literal literal) = term := by
  unfold compare
  cases dataType.findOperator operator with
  | error fault => simp
  | ok entry =>
      cases h : Literal.read (entry.operandTypeFor dataType) operand entry.stereotype with
      | error fault => simp [h]
      | ok literal => simp [h]

namespace Compiler

/-- The code of an arm around its guard: the narrowed subject is there, and the guard holds. -/
def narrowed (guard : Term) : Term :=
  .group (.connect .and [Term.present (.name narrowedName), guard])

/-- What an arm of a type switch becomes. -/
inductive ArmTerm (compiler : Compiler) (depth : Nat) : TypeArm → String × Term → Prop
  /-- An arm without a query asks for nothing but its type. -/
  | always {selector type} (found : compiler.schema.require selector = .ok type)
    : compiler.ArmTerm depth (.arm selector none) (selector, narrowed (.literal (.truth true)))
  /-- The query of an arm is compiled for the narrowed subject. -/
  | guarded {selector type query guard} (found : compiler.schema.require selector = .ok type)
    (holds : compiler.node type (.name narrowedName) (depth + 1) query = .ok guard)
    : compiler.ArmTerm depth (.arm selector (some query)) (selector, narrowed guard)

/-- What a node becomes, for a subject of type `type`. -/
inductive NodeTerm (compiler : Compiler) (type : ObjectType) (subject : Term) (depth : Nat)
    : Expression → Term → Prop
  | boolean {combiner members terms} (nonempty : members ≠ [])
    (each
      : List.Forall₂ (fun member term => compiler.node type subject (depth + 1) member = .ok term)
          members terms)
    : compiler.NodeTerm type subject depth (.boolean combiner members)
        (.group (.connect combiner terms))
  | property {id operator operand property entry literal}
    (found : type.property? id = some property)
    (supported : property.dataType.findOperator operator = .ok entry)
    (read
      : Literal.read (entry.operandTypeFor property.dataType) operand entry.stereotype
        = .ok literal)
    : compiler.NodeTerm type subject depth (.property id operator operand)
        (entry.generate (property.access subject) (.literal literal))
  /-- Without a query, a relationship is only asked whether it leads anywhere. -/
  | existing {negated id relationship} (found : type.relationship? id = some relationship)
    : compiler.NodeTerm type subject depth (.relationship negated id none)
        (negateIf negated (relationship.existing subject))
  /-- The query of a relationship is compiled for the subject that the relationship chooses. -/
  | matching {negated id query relationship target wrapping nested}
    (found : type.relationship? id = some relationship)
    (known : compiler.schema.require relationship.target = .ok target)
    (wraps : relationship.wrapping? subject = some wrapping)
    (holds : compiler.node target wrapping.inner (depth + 1) query = .ok nested)
    : compiler.NodeTerm type subject depth (.relationship negated id (some query))
        (negateIf negated (wrapping.around nested))
  /-- What is written by functions is what they make of the query. -/
  | written {negated id query relationship target code}
    (found : type.relationship? id = some relationship)
    (known : compiler.schema.require relationship.target = .ok target)
    (free : relationship.wrapping? subject = none)
    (done
      : (relationship.matching subject fun inner => compiler.node target inner (depth + 1) query)
        = .ok code)
    : compiler.NodeTerm type subject depth (.relationship negated id (some query))
        (negateIf negated code)
  | name {operator operand naming entry literal} (named : type.naming = some naming)
    (supported : DataType.string.findOperator operator = .ok entry)
    (read : Literal.read (entry.operandTypeFor .string) operand entry.stereotype = .ok literal)
    : compiler.NodeTerm type subject depth (.name operator operand)
        (entry.generate (naming.read subject) (.literal literal))
  /-- An insight test compares the badge of each insight. -/
  | insight {negated badge} (capable : type.hasInsights = true)
    : compiler.NodeTerm type subject depth (.insight negated badge)
        (negateIf negated
          (.any (.member subject ObjectType.insightsId) insightName
            (.compare (.member (.name insightName) "badge") "==" (.literal (.text badge)))))
  | typeSwitch {arms terms} (nonempty : arms ≠ [])
    (each : List.Forall₂ (compiler.ArmTerm depth) arms terms)
    : compiler.NodeTerm type subject depth (.typeSwitch arms)
        (.group (.choose subject narrowedName terms))

/-- A property test succeeds exactly where the property is found and its comparison succeeds. -/
theorem propertyTest_eq_ok {type : ObjectType} {subject : Term} {id : String}
    {operator : Operator} {operand : String} {term : Term}
    : propertyTest type subject id operator operand = .ok term
      ↔ ∃ property,
          type.property? id = some property
          ∧ property.dataType.compare (property.access subject) operator operand = .ok term := by
  unfold propertyTest
  cases type.property? id with
  | none => simp
  | some property => simp

theorem nameTest_eq_ok {type : ObjectType} {subject : Term} {operator : Operator}
    {operand : String} {term : Term}
    : nameTest type subject operator operand = .ok term
      ↔ ∃ naming,
          type.naming = some naming
          ∧ DataType.string.compare (naming.read subject) operator operand = .ok term := by
  unfold nameTest
  cases type.naming with
  | none => simp
  | some naming => simp

/-- An insight test succeeds exactly on a type with insights, whatever the badge. -/
theorem insightTest_eq_ok {type : ObjectType} {subject : Term} {badge : String} {term : Term}
    : insightTest type subject badge = .ok term
      ↔ type.hasInsights = true
        ∧ .any (.member subject ObjectType.insightsId) insightName
            (.compare (.member (.name insightName) "badge") "==" (.literal (.text badge)))
          = term := by
  have equality
      : DataType.string.compare (.member (.name insightName) "badge") .equal badge
        = .ok (.compare (.member (.name insightName) "badge") "==" (.literal (.text badge))) :=
    rfl
  unfold insightTest
  rw [equality]
  cases type.hasInsights with
  | false => simp
  | true => simp [Except.map]

theorem members_eq_ok {compiler : Compiler} {type : ObjectType} {subject : Term} {depth : Nat}
    {members : List Expression} {terms : List Term}
    : compiler.members type subject depth members = .ok terms
      ↔ List.Forall₂ (fun member term => compiler.node type subject depth member = .ok term)
          members terms := by
  refine eq_ok_iff_forall₂ ?_ fun member rest => ?_
  · rw [Compiler.members]
  · rw [Compiler.members]

/-- An arm becomes exactly what its type and its query say. -/
theorem arm_eq_ok {compiler : Compiler} {depth : Nat} {arm : TypeArm} {term : String × Term}
    : compiler.arm depth arm = .ok term ↔ compiler.ArmTerm depth arm term := by
  obtain ⟨selector, query⟩ := arm
  rw [Compiler.arm]
  simp only [bind_eq_ok, pure, Except.pure, Except.ok.injEq]
  constructor
  · rintro ⟨type, found, guard, holds, rfl⟩
    cases query with
    | none =>
        rw [Compiler.guard, Except.ok.injEq] at holds
        exact holds ▸ .always found
    | some query => exact .guarded found (by rwa [Compiler.guard] at holds)
  · rintro (found | ⟨found, holds⟩)
    · exact ⟨_, found, _, by rw [Compiler.guard], rfl⟩
    · exact ⟨_, found, _, by rwa [Compiler.guard], rfl⟩

theorem arms_eq_ok {compiler : Compiler} {depth : Nat} {arms : List TypeArm}
    {terms : List (String × Term)}
    : compiler.arms depth arms = .ok terms
      ↔ List.Forall₂ (compiler.ArmTerm depth) arms terms := by
  have each : compiler.ArmTerm depth = fun arm term => compiler.arm depth arm = .ok term :=
    funext₂ fun _ _ => propext arm_eq_ok.symm
  rw [each]
  refine eq_ok_iff_forall₂ ?_ fun arm rest => ?_
  · rw [Compiler.arms]
  · rw [Compiler.arms]

/-- A test of related entities succeeds exactly where its node does. -/
theorem relationshipTest_eq_ok {compiler : Compiler} {type : ObjectType} {subject : Term}
    {depth : Nat} {negated : Bool} {id : String} {relationship : Relationship}
    (found : type.relationship? id = some relationship) {query : Option Expression} {term : Term}
    : (compiler.relationshipTest relationship subject depth query).map (negateIf negated) = .ok term
      ↔ compiler.NodeTerm type subject depth (.relationship negated id query) term := by
  rw [map_eq_ok]
  cases query with
  | none =>
      rw [relationshipTest]
      constructor
      · rintro ⟨_, done, rfl⟩
        exact Except.ok.inj done ▸ .existing found
      · intro h
        cases h with
        | existing again =>
            obtain rfl := Option.some.inj (found.symm.trans again)
            exact ⟨_, rfl, rfl⟩
  | some query =>
      rw [relationshipTest]
      constructor
      · rintro ⟨_, done, rfl⟩
        obtain ⟨target, known, done⟩ := bind_eq_ok.mp done
        cases wraps : relationship.wrapping? subject with
        | none => exact .written found known wraps done
        | some wrapping =>
            rw [Relationship.matching_of_wrapping? wraps] at done
            obtain ⟨nested, holds, rfl⟩ := map_eq_ok.mp done
            exact .matching found known wraps holds
      · intro h
        cases h with
        | matching again known wraps holds =>
            obtain rfl := Option.some.inj (found.symm.trans again)
            refine ⟨_, bind_eq_ok.mpr ⟨_, known, ?_⟩, rfl⟩
            rw [Relationship.matching_of_wrapping? wraps, holds]
            rfl
        | written again known free done =>
            obtain rfl := Option.some.inj (found.symm.trans again)
            exact ⟨_, bind_eq_ok.mpr ⟨_, known, done⟩, rfl⟩

/-- A node compiles to a term exactly where it is within the depth limit and `NodeTerm` allows the
term, kind by kind.
-/
theorem node_eq_ok {compiler : Compiler} {type : ObjectType} {subject : Term} {depth : Nat}
    {expression : Expression} {term : Term}
    : compiler.node type subject depth expression = .ok term
      ↔ depth ≤ compiler.maxDepth ∧ compiler.NodeTerm type subject depth expression term := by
  unfold node
  split
  · rename_i deep
    simp only [reduceCtorEq, false_iff, not_and]
    omega
  · rename_i shallow
    rw [and_iff_right (Nat.not_lt.mp shallow)]
    cases expression with
    | boolean combiner members =>
        cases members with
        | nil => simpa using fun h => by cases h; contradiction
        | cons member rest =>
            simp only [bind_eq_ok, members_eq_ok, pure, Except.pure, Except.ok.injEq]
            constructor
            · rintro ⟨first, compiled, others, done, rfl⟩
              exact .boolean (by simp) (.cons compiled done)
            · intro h
              cases h with
              | boolean _ each =>
                  cases each with
                  | cons compiled done => exact ⟨_, compiled, _, done, rfl⟩
    | property id operator operand =>
        simp only [propertyTest_eq_ok, DataType.compare_eq_ok]
        constructor
        · rintro ⟨property, found, entry, literal, supported, read, rfl⟩
          exact .property found supported read
        · intro h
          cases h with
          | property found supported read => exact ⟨_, found, _, _, supported, read, rfl⟩
    | relationship negated id query =>
        cases found : type.relationship? id with
        -- Every term that a relationship may become was looked up by its name.
        | none => simpa [found] using fun h => by cases h <;> simp_all
        | some relationship => simpa only [found] using relationshipTest_eq_ok found
    | name operator operand =>
        simp only [nameTest_eq_ok, DataType.compare_eq_ok]
        constructor
        · rintro ⟨naming, named, entry, literal, supported, read, rfl⟩
          exact .name named supported read
        · intro h
          cases h with
          | name named supported read => exact ⟨_, named, _, _, supported, read, rfl⟩
    | insight negated badge =>
        simp only [map_eq_ok, insightTest_eq_ok]
        constructor
        · rintro ⟨_, ⟨capable, rfl⟩, rfl⟩
          exact .insight capable
        · intro h
          cases h with
          | insight capable => exact ⟨_, ⟨capable, rfl⟩, rfl⟩
    | typeSwitch arms =>
        cases arms with
        | nil => simpa using fun h => by cases h; contradiction
        | cons arm rest =>
            simp only [bind_eq_ok, arm_eq_ok, arms_eq_ok, pure, Except.pure, Except.ok.injEq]
            constructor
            · rintro ⟨first, compiled, others, done, rfl⟩
              exact .typeSwitch (by simp) (.cons compiled done)
            · intro h
              cases h with
              | typeSwitch _ each =>
                  cases each with
                  | cons compiled done => exact ⟨_, compiled, _, done, rfl⟩

/-- A group with members compiles all of them, and puts their terms together. -/
theorem node_boolean {compiler : Compiler} {type : ObjectType} {subject : Term} {depth : Nat}
    {combiner : Combiner} {members : List Expression} (nonempty : members ≠ [])
    : compiler.node type subject depth (.boolean combiner members)
      = if compiler.maxDepth < depth then .error (.depthLimitExceeded compiler.maxDepth)
        else (compiler.members type subject (depth + 1) members).map fun terms =>
          .group (.connect combiner terms) := by
  cases members with
  | nil => exact absurd rfl nonempty
  | cons member rest =>
      unfold node
      dsimp only
      rw [Compiler.members]
      cases compiler.node type subject (depth + 1) member with
      | error fault => rfl
      | ok first => cases compiler.members type subject (depth + 1) rest <;> rfl

/-- A type switch with arms compiles all of them, and chooses between their terms. -/
theorem node_typeSwitch {compiler : Compiler} {type : ObjectType} {subject : Term} {depth : Nat}
    {arms : List TypeArm} (nonempty : arms ≠ [])
    : compiler.node type subject depth (.typeSwitch arms)
      = if compiler.maxDepth < depth then .error (.depthLimitExceeded compiler.maxDepth)
        else (compiler.arms depth arms).map fun terms =>
          .group (.choose subject narrowedName terms) := by
  cases arms with
  | nil => exact absurd rfl nonempty
  | cons arm rest =>
      unfold node
      dsimp only
      rw [Compiler.arms]
      cases compiler.arm depth arm with
      | error fault => rfl
      | ok first => cases compiler.arms depth rest <;> rfl

/-- Code comes from a term that the root node compiles to, for a type that the schema has. -/
theorem generateForType_eq_ok {compiler : Compiler} {name subject : String}
    {expression : Expression} {code : String}
    : compiler.generateForType name subject expression = .ok code
      ↔ ∃ type term,
          compiler.schema.get? name = some type
          ∧ compiler.node type (.name subject) 1 expression = .ok term
          ∧ term.code = code := by
  unfold generateForType Schema.require
  cases compiler.schema.get? name with
  | none => simp
  | some type => simp [generate, map_eq_ok]

end Compiler

end QueryTree
