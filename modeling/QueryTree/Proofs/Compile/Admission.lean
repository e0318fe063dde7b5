import QueryTree.Proofs.Compile.Misfit
import QueryTree.Proofs.Compile.Report
import QueryTree.Proofs.Schema.Plain

/-! Which expressions compile, and with which fault the others are refused. The places of an
expression are judged one by one in document order: without a fault the expression compiles, and the
first fault is the one that is reported.
-/

namespace QueryTree

/-- Within the depth limit, a node is refused just if it does not fit its type. -/
theorem Place.inadmissible_iff_misfit {schema : Schema} {maxDepth : Nat} {type : ObjectType}
    {depth : Nat} {expression : Expression} {fault : CompileFault} (shallow : depth ≤ maxDepth)
    : (Place.node type depth expression).Inadmissible schema maxDepth fault
      ↔ expression.Misfit schema type fault := by
  constructor
  · intro refused
    cases refused with
    | tooDeep deep => exact absurd deep (Nat.not_lt.mpr shallow)
    | misfit _ wrong => exact wrong
  · exact .misfit shallow

namespace Compiler

section nodes

variable {schema : Schema} {maxDepth : Nat}

/-- A node is reported on once its depth is known: too deep, or as the rest of it says. -/
theorem reports_of_shallow {type : ObjectType} {depth : Nat} {expression : Expression}
    {below : List Place} {step : Except CompileFault Term}
    (within
      : depth ≤ maxDepth
        → Reports (Place.Inadmissible schema maxDepth) (.node type depth expression :: below)
            (verdict step))
    : Reports (Place.Inadmissible schema maxDepth) (.node type depth expression :: below)
        (verdict (if maxDepth < depth then .error (.depthLimitExceeded maxDepth) else step)) := by
  split
  · rename_i deep
    exact .here (.tooDeep deep)
  · rename_i shallow
    exact within (Nat.not_lt.mp shallow)

theorem reports_members {type : ObjectType} {subject : Term} {depth : Nat}
    {members : List Expression}
    (each
      : ∀ member ∈ members,
          Reports (Place.Inadmissible schema maxDepth) (member.places schema type depth)
            (verdict (node ⟨schema, maxDepth⟩ type subject depth member)))
    : Reports (Place.Inadmissible schema maxDepth)
        (Expression.memberPlaces schema type depth members)
        (verdict (Compiler.members ⟨schema, maxDepth⟩ type subject depth members)) := by
  induction members with
  | nil =>
      rw [Compiler.members, Expression.memberPlaces]
      exact .done
  | cons member rest ih =>
      rw [Compiler.members, Expression.memberPlaces]
      refine .bind (each member List.mem_cons_self) fun first => ?_
      exact .bind_pure (ih fun other present => each other (List.mem_cons_of_mem _ present)) _

/-- The query of an arm is reported on behind the selector of the arm. -/
theorem reports_arm {depth : Nat} {selector : String} {query : Option Expression}
    (below
      : ∀ inner, query = some inner → ∀ type, schema.get? selector = some type →
          Reports (Place.Inadmissible schema maxDepth) (inner.places schema type (depth + 1))
            (verdict (node ⟨schema, maxDepth⟩ type (.name narrowedName) (depth + 1) inner)))
    : Reports (Place.Inadmissible schema maxDepth)
        (Expression.armPlaces schema (depth + 1) (.arm selector query))
        (verdict (Compiler.arm ⟨schema, maxDepth⟩ depth (.arm selector query))) := by
  rw [Compiler.arm, Expression.armPlaces]
  unfold Schema.require
  cases known : schema.get? selector with
  | none => exact .here (.unknownSelector known)
  | some type =>
      refine .later (fun fault refused => ?_) ?_
      · cases refused with
        | unknownSelector absent => cases known.symm.trans absent
      · cases query with
        | none =>
            simp only [Expression.queryPlaces, Compiler.guard]
            exact .done
        | some inner =>
            simp only [Expression.queryPlaces, known, Compiler.guard]
            exact .bind_pure (below inner rfl type known) _

theorem reports_arms {depth : Nat} {arms : List TypeArm}
    (each
      : ∀ selector query, TypeArm.arm selector (some query) ∈ arms → ∀ type,
          schema.get? selector = some type
          → Reports (Place.Inadmissible schema maxDepth) (query.places schema type (depth + 1))
              (verdict (node ⟨schema, maxDepth⟩ type (.name narrowedName) (depth + 1) query)))
    : Reports (Place.Inadmissible schema maxDepth)
        (Expression.armsPlaces schema (depth + 1) arms)
        (verdict (Compiler.arms ⟨schema, maxDepth⟩ depth arms)) := by
  induction arms with
  | nil =>
      rw [Compiler.arms, Expression.armsPlaces]
      exact .done
  | cons arm rest ih =>
      obtain ⟨selector, query⟩ := arm
      rw [Compiler.arms, Expression.armsPlaces]
      refine .bind (reports_arm fun inner same => ?_) fun first => ?_
      · exact each selector inner (same ▸ List.mem_cons_self)
      · exact .bind_pure
          (ih fun selector inner present => each selector inner (List.mem_cons_of_mem _ present)) _

/-- A relationship that is there is reported on by its target and its query. Plain relationships
compile their queries.
-/
theorem reports_relationship {type : ObjectType} (plain : type.Plain) {subject : Term}
    {depth : Nat} (shallow : depth ≤ maxDepth) {negated : Bool} {id : String}
    {declared : Relationship} (found : type.relationship? id = some declared)
    {query : Option Expression}
    (below
      : ∀ inner, query = some inner → ∀ target scope, schema.get? declared.target = some target →
          Reports (Place.Inadmissible schema maxDepth) (inner.places schema target (depth + 1))
            (verdict (node ⟨schema, maxDepth⟩ target scope (depth + 1) inner)))
    : Reports (Place.Inadmissible schema maxDepth)
        (.node type depth (.relationship negated id query)
          :: Expression.queryPlaces schema declared.target (depth + 1) query)
        (verdict (relationshipTest ⟨schema, maxDepth⟩ declared subject depth query)) := by
  have right (fits : query = none ∨ schema.get? declared.target ≠ none) (fault : CompileFault)
      : ¬(Place.node type depth (.relationship negated id query)).Inadmissible schema maxDepth
          fault := by
    intro refused
    obtain ⟨asked, absent⟩ :=
      ((Place.inadmissible_iff_misfit shallow).mp refused).of_found found
    exact fits.elim asked fun there => there absent
  cases query with
  | none =>
      rw [relationshipTest, Expression.queryPlaces]
      exact .later (right (.inl rfl)) .done
  | some inner =>
      rw [relationshipTest, Expression.queryPlaces]
      unfold Schema.require
      cases known : schema.get? declared.target with
      | none => exact .here (.misfit shallow (.unknownTarget found known))
      | some target =>
          refine .later (right (.inr (by simp [known]))) ?_
          obtain ⟨wrapping, wraps⟩ :=
            Option.ne_none_iff_exists'.mp (plain.wrapping?_ne_none found subject)
          have asked := below inner rfl target wrapping.inner known
          simp only [bind, Except.bind]
          rwa [Relationship.matching_of_wrapping? wraps, verdict_map]

/-- Compiling a node reports on its places, by induction on the expression. -/
theorem reports_node (plain : schema.Plain) {type : ObjectType} (plainType : type.Plain)
    (subject : Term) (depth : Nat) (expression : Expression)
    : Reports (Place.Inadmissible schema maxDepth) (expression.places schema type depth)
        (verdict (node ⟨schema, maxDepth⟩ type subject depth expression)) := by
  induction expression generalizing type subject depth with
  | boolean combiner members ih =>
      rw [Expression.places]
      by_cases empty : members = []
      · subst empty
        unfold node
        exact reports_of_shallow fun shallow => .here (.misfit shallow .emptyGroup)
      · rw [node_boolean empty]
        refine reports_of_shallow fun shallow => .later (fun fault refused => ?_) ?_
        · cases (Place.inadmissible_iff_misfit shallow).mp refused
          exact empty rfl
        · rw [verdict_map]
          exact reports_members fun member present =>
            ih member present plainType subject (depth + 1)
  | property id operator operand =>
      rw [node, Expression.places]
      refine reports_of_shallow fun shallow => .single fun fault => ?_
      rw [Place.inadmissible_iff_misfit shallow]
      exact propertyTest_eq_error
  | relationship negated id query ih =>
      rw [node, Expression.places]
      refine reports_of_shallow fun shallow => ?_
      cases found : type.relationship? id with
      | none =>
          have absent := ObjectType.relationship?_eq_none.mp found
          exact .here (.misfit shallow (.unknownRelationship absent))
      | some declared =>
          dsimp only
          rw [verdict_map]
          exact reports_relationship plainType shallow found fun inner same target scope known =>
            ih inner same (plain _ target known) scope (depth + 1)
  | name operator operand =>
      rw [node, Expression.places]
      refine reports_of_shallow fun shallow => .single fun fault => ?_
      rw [Place.inadmissible_iff_misfit shallow]
      exact nameTest_eq_error
  | insight negated badge =>
      rw [node, Expression.places]
      refine reports_of_shallow fun shallow => ?_
      rw [verdict_map]
      refine .single fun fault => ?_
      rw [Place.inadmissible_iff_misfit shallow]
      exact insightTest_eq_error
  | typeSwitch arms ih =>
      rw [Expression.places]
      by_cases empty : arms = []
      · subst empty
        unfold node
        exact reports_of_shallow fun shallow => .here (.misfit shallow .emptySwitch)
      · rw [node_typeSwitch empty]
        refine reports_of_shallow fun shallow => .later (fun fault refused => ?_) ?_
        · cases (Place.inadmissible_iff_misfit shallow).mp refused
          exact empty rfl
        · rw [verdict_map]
          exact reports_arms fun selector query present type known =>
            ih selector query present (plain _ type known) (.name narrowedName) (depth + 1)

end nodes

theorem reports_generateForType {schema : Schema} (plain : schema.Plain) {name : String}
    {type : ObjectType} (known : schema.get? name = some type) (maxDepth : Nat) (subject : String)
    (expression : Expression)
    : Reports (Place.Inadmissible schema maxDepth) (expression.places schema type 1)
        (verdict (generateForType ⟨schema, maxDepth⟩ name subject expression)) := by
  have required : schema.require name = .ok type := Schema.require_eq_ok.mpr known
  unfold generateForType generate
  simp only [required, verdict_map]
  exact reports_node plain (plain name type known) (.name subject) 1 expression

/-- An expression compiles exactly if nothing is wrong in any of its places. Otherwise it is refused
with the fault of the first place, in document order, that something is wrong with.
-/
theorem generateForType_judges_places {schema : Schema} (plain : schema.Plain) {name : String}
    {type : ObjectType} (known : schema.get? name = some type) (maxDepth : Nat) (subject : String)
    (expression : Expression)
    : ((∃ code, generateForType ⟨schema, maxDepth⟩ name subject expression = .ok code)
        ↔ ∀ place ∈ expression.places schema type 1, place.Admissible schema maxDepth)
      ∧ ∀ fault,
          generateForType ⟨schema, maxDepth⟩ name subject expression = .error fault
          ↔ ∃ before place after,
              expression.places schema type 1 = before ++ place :: after
              ∧ (∀ earlier ∈ before, earlier.Admissible schema maxDepth)
              ∧ place.Inadmissible schema maxDepth fault := by
  have reports := reports_generateForType plain known maxDepth subject expression
  constructor
  · rw [← verdict_eq_ok]
    exact reports.eq_ok_iff
  · intro fault
    rw [← verdict_eq_error]
    exact reports.eq_error_iff fun _ _ _ first second => first.unique second

/-- For devices, the test in the first arm is what is reported: it stands before the selector of the
second arm, which is unknown, and before the unknown property behind the switch.
-/
theorem devices_first_fault
    : SchemaDocument.devicesSchema.Plain
      ∧ SchemaDocument.devicesSchema.get? "Device" = some SchemaDocument.deviceEntry.toObjectType
      ∧ ∃ before place after,
          (Expression.boolean .or
            [ .typeSwitch
                [.arm "Device" (some (.property "ports" .contains "1")), .arm "Router" none],
              .property "size" .equal "1" ]).places
            SchemaDocument.devicesSchema SchemaDocument.deviceEntry.toObjectType 1
          = before ++ place :: after
          ∧ (∀ earlier ∈ before, earlier.Admissible SchemaDocument.devicesSchema 3)
          ∧ place.Inadmissible SchemaDocument.devicesSchema 3
              (.unsupportedOperator .contains .number) := by
  have plain := SchemaDocument.plain_of_toSchema SchemaDocument.devices_toSchema
  have known
      : SchemaDocument.devicesSchema.get? "Device"
        = some SchemaDocument.deviceEntry.toObjectType :=
    rfl
  exact ⟨plain, known, ((generateForType_judges_places plain known 3 "d" _).2 _).mp rfl⟩

end Compiler

end QueryTree
