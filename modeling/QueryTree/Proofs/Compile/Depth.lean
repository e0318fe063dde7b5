import QueryTree.Proofs.Compile.Node
import QueryTree.Proofs.Expression.Induction
import QueryTree.Proofs.Schema.Plain

/-! The limit of depth. What compiles under some limit gives the same code under every limit that
its longest path of nodes fits into, and nothing but the fault of the limit under every other.
-/

namespace QueryTree

namespace Expression

mutual

/-- The number of nodes on the longest path from an expression down. -/
def height : Expression → Nat
  | .boolean _ members => membersHeight members + 1
  | .relationship _ _ query => queryHeight query + 1
  | .typeSwitch arms => armsHeight arms + 1
  | .property _ _ _ | .name _ _ | .insight _ _ => 1
termination_by structural expression => expression

def membersHeight : List Expression → Nat
  | [] => 0
  | member :: rest => max member.height (membersHeight rest)
termination_by structural members => members

/-- Nothing is below a relationship or an arm without a query. -/
def queryHeight : Option Expression → Nat
  | none => 0
  | some query => query.height
termination_by structural query => query

def armsHeight : List TypeArm → Nat
  | [] => 0
  | arm :: rest => max (armHeight arm) (armsHeight rest)
termination_by structural arms => arms

def armHeight : TypeArm → Nat
  | .arm _ query => queryHeight query
termination_by structural arm => arm

end

theorem membersHeight_le_iff {members : List Expression} {bound : Nat}
    : membersHeight members ≤ bound ↔ ∀ member ∈ members, member.height ≤ bound :=
  greatest_le_iff rfl fun _ _ => rfl

theorem armsHeight_le_iff {arms : List TypeArm} {bound : Nat}
    : armsHeight arms ≤ bound ↔ ∀ arm ∈ arms, armHeight arm ≤ bound :=
  greatest_le_iff rfl fun _ _ => rfl

theorem height_pos (expression : Expression) : 0 < expression.height := by
  cases expression <;> exact Nat.succ_pos _

end Expression

namespace Compiler

/-- The outcome of steps that would give `value` but for the limit, and that need all depths below
`past`.
-/
def limited {α : Type} (limit past : Nat) (value : α) : Except CompileFault α :=
  if past ≤ limit + 1 then .ok value else .error (.depthLimitExceeded limit)

section limited

variable {α β : Type} {limit past next : Nat} {value : α} {result : β}

theorem limited_of_le (room : past ≤ limit + 1) : limited limit past value = .ok value :=
  if_pos room

/-- Steps one after the other need the depths that any of them needs. -/
theorem limited_bind {step : Except CompileFault α} {after : α → Except CompileFault β}
    (first : step = limited limit past value) (second : after value = limited limit next result)
    : (step >>= after) = limited limit (max past next) result := by
  rw [first]
  unfold limited at second ⊢
  by_cases room : past ≤ limit + 1
  · simp only [Nat.max_le, room, true_and]
    exact second
  · simp only [Nat.max_le, room, false_and, if_false]
    rfl

theorem limited_bind_pure {step : Except CompileFault α} (first : step = limited limit past value)
    (change : α → β)
    : (step >>= fun value => pure (change value)) = limited limit past (change value) := by
  rw [first]
  unfold limited
  split <;> rfl

theorem limited_map {step : Except CompileFault α} (first : step = limited limit past value)
    (change : α → β)
    : step.map change = limited limit past (change value) := by
  rw [first]
  unfold limited
  split <;> rfl

/-- A node needs its own depth, and then what is below it. -/
theorem limited_node {depth height : Nat} {step : Except CompileFault α}
    (below : depth ≤ limit → step = limited limit (depth + 1 + height) value)
    : (if limit < depth then .error (.depthLimitExceeded limit) else step)
      = limited limit (depth + (height + 1)) value := by
  split
  · rename_i deep
    rw [limited, if_neg (by omega)]
  · rename_i shallow
    rw [below (Nat.not_lt.mp shallow), Nat.add_right_comm, Nat.add_assoc]

/-- A step without nodes below it gives its value wherever it is reached. -/
theorem limited_leaf {depth maxDepth : Nat} {step : Except CompileFault α} {fault : CompileFault}
    (done : (if maxDepth < depth then .error fault else step) = .ok value)
    : (if limit < depth then .error (.depthLimitExceeded limit) else step)
      = limited limit (depth + 1) value := by
  have reached : step = .ok value := by
    split at done
    · cases done
    · exact done
  rw [reached]
  exact limited_node fun room => (limited_of_le (Nat.succ_le_succ room)).symm

end limited

section nodes

variable {schema : Schema} {maxDepth : Nat}

/-- Members need all depths that the highest of them needs. -/
theorem members_limited {type : ObjectType} {subject : Term} {depth limit : Nat}
    (room : depth ≤ limit + 1) {members : List Expression} {terms : List Term}
    (compiled
      : List.Forall₂
          (fun member term => node ⟨schema, maxDepth⟩ type subject depth member = .ok term)
          members terms)
    (each
      : ∀ member ∈ members, ∀ term,
          node ⟨schema, maxDepth⟩ type subject depth member = .ok term
          → node ⟨schema, limit⟩ type subject depth member
            = limited limit (depth + member.height) term)
    : Compiler.members ⟨schema, limit⟩ type subject depth members
      = limited limit (depth + Expression.membersHeight members) terms := by
  induction compiled with
  | nil =>
      rw [Compiler.members, limited_of_le]
      exact room
  | cons first _ ih =>
      have after := ih fun member present => each member (List.mem_cons_of_mem _ present)
      rw [Compiler.members, Expression.membersHeight, ← Nat.add_max_add_left]
      exact limited_bind (each _ List.mem_cons_self _ first) (limited_bind_pure after _)

theorem arm_limited {depth limit : Nat} (room : depth ≤ limit) {arm : TypeArm}
    {term : String × Term} (compiled : ArmTerm ⟨schema, maxDepth⟩ depth arm term)
    (below
      : ∀ selector query, arm = .arm selector (some query) → ∀ type guard,
          schema.require selector = .ok type
          → node ⟨schema, maxDepth⟩ type (.name narrowedName) (depth + 1) query = .ok guard
          → node ⟨schema, limit⟩ type (.name narrowedName) (depth + 1) query
            = limited limit (depth + 1 + query.height) guard)
    : Compiler.arm ⟨schema, limit⟩ depth arm
      = limited limit (depth + 1 + Expression.armHeight arm) term := by
  cases compiled with
  | always found =>
      rw [Compiler.arm, found, Expression.armHeight, Expression.queryHeight, limited_of_le]
      · rfl
      · exact Nat.succ_le_succ room
  | guarded found holds =>
      rw [Compiler.arm, found, Expression.armHeight, Expression.queryHeight]
      exact limited_bind_pure (below _ _ rfl _ _ found holds) _

theorem arms_limited {depth limit : Nat} (room : depth ≤ limit) {arms : List TypeArm}
    {terms : List (String × Term)}
    (compiled : List.Forall₂ (ArmTerm ⟨schema, maxDepth⟩ depth) arms terms)
    (each
      : ∀ selector query, TypeArm.arm selector (some query) ∈ arms → ∀ type guard,
          schema.require selector = .ok type
          → node ⟨schema, maxDepth⟩ type (.name narrowedName) (depth + 1) query = .ok guard
          → node ⟨schema, limit⟩ type (.name narrowedName) (depth + 1) query
            = limited limit (depth + 1 + query.height) guard)
    : Compiler.arms ⟨schema, limit⟩ depth arms
      = limited limit (depth + 1 + Expression.armsHeight arms) terms := by
  induction compiled with
  | nil =>
      rw [Compiler.arms, limited_of_le]
      exact Nat.succ_le_succ room
  | cons first _ ih =>
      have here := arm_limited room first fun selector query same =>
        each selector query (same ▸ List.mem_cons_self)
      have after := ih fun selector query present =>
        each selector query (List.mem_cons_of_mem _ present)
      rw [Compiler.arms, Expression.armsHeight, ← Nat.add_max_add_left]
      exact limited_bind here (limited_bind_pure after _)

/-- What a node compiles to under one limit it compiles to under every limit that it fits into, and
only the limit stands against it under the others, by induction on the expression. Plain
relationships compile their queries, so every node below counts.
-/
theorem node_limited (plain : schema.Plain) {type : ObjectType} (plainType : type.Plain)
    {subject : Term} {depth : Nat} {expression : Expression} {term : Term}
    (compiled : node ⟨schema, maxDepth⟩ type subject depth expression = .ok term) (limit : Nat)
    : node ⟨schema, limit⟩ type subject depth expression
      = limited limit (depth + expression.height) term := by
  induction expression generalizing type subject depth term with
  | boolean combiner members ih =>
      cases (node_eq_ok.mp compiled).2 with
      | boolean nonempty each =>
          rw [node_boolean nonempty, Expression.height]
          refine limited_node fun room => limited_map ?_ _
          exact members_limited (Nat.succ_le_succ room) each fun member present _ =>
            ih member present plainType
  | property id operator operand =>
      rw [node] at compiled ⊢
      exact limited_leaf compiled
  | relationship negated id query ih =>
      rw [node, Expression.height]
      refine limited_node fun room => ?_
      cases (node_eq_ok.mp compiled).2 with
      | existing found =>
          simp only [found, relationshipTest, Expression.queryHeight]
          exact (limited_of_le (Nat.succ_le_succ room)).symm
      | matching found known wraps holds =>
          have below := ih _ rfl (plain.of_require known) holds
          simp only [found, relationshipTest, Expression.queryHeight]
          refine limited_map ?_ _
          rw [known]
          dsimp only [bind, Except.bind]
          rw [Relationship.matching_of_wrapping? wraps]
          exact limited_map below _
      | written found _ free => exact absurd free (plainType.wrapping?_ne_none found _)
  | name operator operand =>
      rw [node] at compiled ⊢
      exact limited_leaf compiled
  | insight negated badge =>
      rw [node] at compiled ⊢
      exact limited_leaf compiled
  | typeSwitch arms ih =>
      cases (node_eq_ok.mp compiled).2 with
      | typeSwitch nonempty each =>
          rw [node_typeSwitch nonempty, Expression.height]
          refine limited_node fun room => limited_map ?_ _
          exact arms_limited room each fun selector query present _ _ found =>
            ih selector query present (plain.of_require found)

end nodes

/-- The limit of depth is exact and affects nothing else. What compiles has no more nodes on any
path than the limit allows. Under every other limit it compiles to the same code if its longest path
fits, and is refused for its depth, with that limit, if not.
-/
theorem generateForType_at_every_limit {schema : Schema} (plain : schema.Plain) {maxDepth : Nat}
    {name subject : String} {expression : Expression} {code : String}
    (done : generateForType ⟨schema, maxDepth⟩ name subject expression = .ok code)
    : expression.height ≤ maxDepth
      ∧ ∀ limit,
          generateForType ⟨schema, limit⟩ name subject expression
          = if expression.height ≤ limit then .ok code else .error (.depthLimitExceeded limit) := by
  obtain ⟨type, term, known, compiled, rfl⟩ := generateForType_eq_ok.mp done
  have required : schema.require name = .ok type := Schema.require_eq_ok.mpr known
  have atLimit (limit : Nat)
      : generateForType ⟨schema, limit⟩ name subject expression
        = if expression.height ≤ limit then .ok term.code
          else .error (.depthLimitExceeded limit) := by
    unfold generateForType generate
    simp only [required]
    rw [limited_map (node_limited plain (plain name type known) compiled limit)]
    simp only [limited, Nat.add_comm 1, Nat.add_le_add_iff_right]
  refine ⟨?_, atLimit⟩
  -- Under the limit that it compiled with, the fault is not what came out.
  by_contra tall
  rw [atLimit maxDepth, if_neg tall] at done
  cases done

/-- For devices, the name of the owner of a peer is asked for at the fourth node: from a limit of
four on the code is the same, and a limit of three is exceeded.
-/
theorem devices_exact_limit
    : SchemaDocument.devicesSchema.Plain
      ∧ ∃ code,
          let expression : Expression :=
            .boolean .or
              [ .name .equal "core",
                .relationship false "peers"
                  (some (.relationship true "owner" (some (.name .equal "core")))) ]
          generateForType ⟨SchemaDocument.devicesSchema, 10⟩ "Device" "d" expression = .ok code
          ∧ generateForType ⟨SchemaDocument.devicesSchema, 4⟩ "Device" "d" expression = .ok code
          ∧ generateForType ⟨SchemaDocument.devicesSchema, 3⟩ "Device" "d" expression
            = .error (.depthLimitExceeded 3) := by
  have plain := SchemaDocument.plain_of_toSchema SchemaDocument.devices_toSchema
  obtain ⟨code, done⟩
      : ∃ code,
          generateForType ⟨SchemaDocument.devicesSchema, 10⟩ "Device" "d"
            (.boolean .or
              [ .name .equal "core",
                .relationship false "peers"
                  (some (.relationship true "owner" (some (.name .equal "core")))) ])
          = .ok code :=
    ⟨_, rfl⟩
  obtain ⟨_, every⟩ := generateForType_at_every_limit plain done
  exact ⟨plain, code, done, every 4, every 3⟩

end Compiler

end QueryTree
