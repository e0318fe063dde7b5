import QueryTree.Expression.Decoding
import QueryTree.Proofs.Expression.Encoding

/-! Decoding undoes encoding: the stored form of an expression has known tags only, and is decoded
to that expression, as a value always and as a text as far as the reader of texts can follow its
brackets.
-/

namespace QueryTree

namespace Expression

/-- Tags are looked for below every node, so also where a query is stored as `null`. -/
theorem checkKinds_null : checkKinds .null = .ok () := by
  rw [checkKinds]
  intro fields same
  cases same

theorem checkMemberKinds_eq_ok {values : List Json}
    : checkMemberKinds values = .ok () ↔ ∀ value ∈ values, checkKinds value = .ok () := by
  induction values with
  | nil => simp [checkMemberKinds]
  | cons value rest ih =>
      rw [checkMemberKinds, List.forall_mem_cons, ← ih]
      cases checkKinds value <;> simp

theorem checkArmKinds_eq_ok {values : List Json}
    : checkArmKinds values = .ok () ↔ ∀ value ∈ values, checkArmKind value = .ok () := by
  induction values with
  | nil => simp [checkArmKinds]
  | cons value rest ih =>
      rw [checkArmKinds, List.forall_mem_cons, ← ih]
      cases checkArmKind value <;> simp

theorem decodeMembers?_eq_some {items : List Json} {members : List Expression}
    : decodeMembers? items = some members
      ↔ List.Forall₂ (fun item member => decode? true item = some member) items members := by
  refine eq_some_iff_forall₂ (by rw [decodeMembers?]) fun item rest => ?_
  rw [decodeMembers?]
  cases decode? true item <;> rfl

theorem decodeArms?_eq_some {items : List Json} {arms : List TypeArm}
    : decodeArms? items = some arms
      ↔ List.Forall₂ (fun item arm => decodeArm? item = some arm) items arms := by
  refine eq_some_iff_forall₂ (by rw [decodeArms?]) fun item rest => ?_
  rw [decodeArms?]
  cases decodeArm? item <;> rfl

section parts

variable {query : Option Expression} {members : List Expression} {arms : List TypeArm}

theorem checkKinds_queryToJson
    (below : ∀ inner, query = some inner → checkKinds inner.toJson = .ok ())
    : checkKinds (queryToJson query) = .ok () := by
  cases query with
  | none => exact checkKinds_null
  | some inner => exact below inner rfl

theorem checkMemberKinds_membersToJson
    (each : ∀ member ∈ members, checkKinds member.toJson = .ok ())
    : checkMemberKinds (membersToJson members) = .ok () := by
  rw [checkMemberKinds_eq_ok, membersToJson_eq, List.forall_mem_map]
  exact each

theorem checkArmKinds_armsToJson
    (each
      : ∀ selector query, TypeArm.arm selector (some query) ∈ arms →
          checkKinds query.toJson = .ok ())
    : checkArmKinds (armsToJson arms) = .ok () := by
  rw [checkArmKinds_eq_ok, armsToJson_eq, List.forall_mem_map]
  rintro ⟨selector, query⟩ present
  rw [armToJson, checkArmKind]
  exact checkKinds_queryToJson fun inner same => each selector inner (same ▸ present)

/-- A query is decoded from its stored form if the expression in it is; where there is none, `null`
is stored.
-/
theorem queryToJson_cases
    (below : ∀ inner, query = some inner → decode? true inner.toJson = some inner)
    : (query = none ∧ queryToJson query = .null)
      ∨ ∃ inner fields,
          query = some inner
          ∧ queryToJson query = .object fields
          ∧ decode? true (.object fields) = some inner := by
  cases query with
  | none => exact .inl ⟨rfl, by rw [queryToJson]⟩
  | some inner =>
      have object : ∃ fields, inner.toJson = .object fields := by
        cases inner <;> exact ⟨_, by rw [toJson]⟩
      obtain ⟨fields, same⟩ := object
      refine .inr ⟨inner, fields, rfl, by rw [queryToJson, same], ?_⟩
      rw [← same]
      exact below inner rfl

theorem decodeMembers?_membersToJson
    (each : ∀ member ∈ members, decode? true member.toJson = some member)
    : decodeMembers? (membersToJson members) = some members := by
  rw [decodeMembers?_eq_some, membersToJson_eq, List.forall₂_map_left_iff]
  exact List.forall₂_same.mpr each

theorem decodeArms?_armsToJson
    (each
      : ∀ selector query, TypeArm.arm selector (some query) ∈ arms →
          decode? true query.toJson = some query)
    : decodeArms? (armsToJson arms) = some arms := by
  rw [decodeArms?_eq_some, armsToJson_eq, List.forall₂_map_left_iff]
  refine List.forall₂_same.mpr ?_
  rintro ⟨selector, query⟩ present
  rw [armToJson, decodeArm?, decodeArmArguments?]
  rcases queryToJson_cases fun inner same => each selector inner (same ▸ present) with
    ⟨rfl, stored⟩ | ⟨inner, fields, rfl, stored, decoded⟩
  · rw [stored]
    rfl
  · rw [stored]
    exact congrArg (Option.map fun query => TypeArm.arm selector (some query)) decoded

end parts

/-- The tags in the stored form of an expression are all known, by induction on the expression. -/
theorem checkKinds_toJson (expression : Expression) : checkKinds expression.toJson = .ok () := by
  induction expression with
  | boolean combiner members ih =>
      rw [toJson, checkKinds]
      exact checkMemberKinds_membersToJson ih
  | property id operator operand =>
      rw [toJson, checkKinds]
      rfl
  | relationship negated id query ih =>
      have below : checkKinds (queryToJson query) = .ok () := checkKinds_queryToJson ih
      rw [toJson, checkKinds]
      cases negated with
      | false => exact below
      | true => exact below
  | name operator operand =>
      rw [toJson, checkKinds]
      rfl
  | insight negated badge =>
      rw [toJson, checkKinds]
      cases negated with
      | false => rfl
      | true => rfl
  | typeSwitch arms ih =>
      rw [toJson, checkKinds]
      exact checkArmKinds_armsToJson ih

/-- An object that is tagged by the token of a kind is decoded as a node of that kind. -/
theorem decode?_tagged (byPosition : Bool) (kind : ExpressionKind) (fields : List (String × Json))
    : decode? byPosition (.object (("type", .string kind.token) :: fields))
      = decodeNode? kind (.named (("type", .string kind.token) :: fields)) := by
  have known
      : (Json.lookup (("type", .string kind.token) :: fields) "type").bind (kindOf? byPosition)
        = some kind := by
    cases kind <;> rfl
  rw [decode?, known]

/-- An expression is decoded from its stored form, by induction on the expression. -/
theorem decode?_toJson (expression : Expression) (byPosition : Bool)
    : decode? byPosition expression.toJson = some expression := by
  induction expression generalizing byPosition with
  | boolean combiner members ih =>
      have each : decodeMembers? (membersToJson members) = some members :=
        decodeMembers?_membersToJson fun member present => ih member present true
      rw [toJson]
      refine (decode?_tagged byPosition .boolean _).trans ?_
      rw [decodeNode?]
      cases combiner with
      | and => exact congrArg (Option.map (Expression.boolean .and)) each
      | or => exact congrArg (Option.map (Expression.boolean .or)) each
  | property id operator operand =>
      rw [toJson]
      refine (decode?_tagged byPosition .property _).trans ?_
      rw [decodeNode?]
      cases operator <;> rfl
  | relationship negated id query ih =>
      rw [toJson]
      rcases queryToJson_cases fun inner same => ih inner same true with
        ⟨rfl, stored⟩ | ⟨inner, fields, rfl, stored, decoded⟩
      · rw [stored]
        cases negated with
        | false =>
            refine (decode?_tagged byPosition .relationship _).trans ?_
            rw [decodeNode?]
            rfl
        | true =>
            refine (decode?_tagged byPosition .negatedRelationship _).trans ?_
            rw [decodeNode?]
            rfl
      · rw [stored]
        have nested (negated : Bool) :=
          congrArg (Option.map fun query => Expression.relationship negated id (some query)) decoded
        cases negated with
        | false =>
            refine (decode?_tagged byPosition .relationship _).trans ?_
            rw [decodeNode?]
            exact nested false
        | true =>
            refine (decode?_tagged byPosition .negatedRelationship _).trans ?_
            rw [decodeNode?]
            exact nested true
  | name operator operand =>
      rw [toJson]
      refine (decode?_tagged byPosition .name _).trans ?_
      rw [decodeNode?]
      cases operator <;> rfl
  | insight negated badge =>
      rw [toJson]
      cases negated with
      | false =>
          refine (decode?_tagged byPosition .hasInsight _).trans ?_
          rw [decodeNode?]
          rfl
      | true =>
          refine (decode?_tagged byPosition .negatedHasInsight _).trans ?_
          rw [decodeNode?]
          rfl
  | typeSwitch arms ih =>
      have each : decodeArms? (armsToJson arms) = some arms :=
        decodeArms?_armsToJson fun selector query present => ih selector query present true
      rw [toJson]
      refine (decode?_tagged byPosition .typeSwitch _).trans ?_
      rw [decodeNode?]
      exact congrArg (Option.map Expression.typeSwitch) each

theorem ofJson_toJson (expression : Expression) : ofJson expression.toJson = .ok expression := by
  rw [ofJson, checkKinds_toJson, decode?_toJson]

/-- The text of an expression is read back exactly if its brackets nest within the limit. -/
theorem ofText_write (expression : Expression) (layout : Json.Layout)
    : ofText (expression.toJson.write layout)
      = if expression.brackets ≤ Json.nestingLimit then .ok expression
        else .error (.unreadable .malformed) := by
  rw [ofText, Json.parse?, Json.parseWithin?, Json.ofText_write expression.canonical_toJson]
  simp only [Bool.false_eq_true, ↓reduceIte]
  rw [Json.value?_toDraft expression.canonical_toJson, height_toJson]
  by_cases within : expression.brackets ≤ Json.nestingLimit
  · rw [if_pos within, if_pos within]
    exact expression.ofJson_toJson
  · rw [if_neg within, if_neg within]

/-- Decoding undoes encoding. As a value, an expression is read back however deep it nests. As a
text, in either layout, its brackets nest as deep as its nodes cost, two for a group, three for an
arm with its type switch and one for any other node, and it is read back if that is within the limit
and refused as no JSON otherwise.
-/
theorem decoding_undoes_encoding (expression : Expression)
    : ofJson expression.toJson = .ok expression
      ∧ ∀ layout,
          Json.nesting (expression.toJson.write layout) = expression.brackets
          ∧ ofText (expression.toJson.write layout)
            = if Json.nesting (expression.toJson.write layout) ≤ 127 then .ok expression
              else .error (.unreadable .malformed) := by
  refine ⟨expression.ofJson_toJson, fun layout => ?_⟩
  have nests : Json.nesting (expression.toJson.write layout) = expression.brackets := by
    rw [Json.nesting_write expression.canonical_toJson, height_toJson]
  refine ⟨nests, ?_⟩
  rw [nests]
  exact expression.ofText_write layout

end Expression

end QueryTree
