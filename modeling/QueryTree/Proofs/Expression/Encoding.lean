import QueryTree.Expression.Encoding
import QueryTree.Proofs.Expression.Induction
import QueryTree.Proofs.Json.Nesting

/-! The stored form of an expression is canonical, and nests as deep as the kinds of the nodes say:
a group costs two levels, an arm of a type switch three, and every other node one.
-/

namespace QueryTree.Expression

mutual

/-- How deep the stored form of an expression nests. -/
def brackets : Expression → Nat
  -- One for the object of the group, one for the array of its members
  | .boolean _ members => memberBrackets members + 2
  | .property _ _ _ => 1
  | .relationship _ _ query => queryBrackets query + 1
  | .name _ _ => 1
  | .insight _ _ => 1
  | .typeSwitch arms => armsBrackets arms + 2
termination_by structural expression => expression

def memberBrackets : List Expression → Nat
  | [] => 0
  | member :: rest => max member.brackets (memberBrackets rest)
termination_by structural members => members

def queryBrackets : Option Expression → Nat
  | none => 0
  | some query => query.brackets
termination_by structural query => query

def armsBrackets : List TypeArm → Nat
  | [] => 0
  | arm :: rest => max (armBrackets arm) (armsBrackets rest)
termination_by structural arms => arms

def armBrackets : TypeArm → Nat
  | .arm _ query => queryBrackets query + 1
termination_by structural arm => arm

end

theorem memberBrackets_le_iff {members : List Expression} {bound : Nat}
    : memberBrackets members ≤ bound ↔ ∀ member ∈ members, member.brackets ≤ bound :=
  greatest_le_iff rfl fun _ _ => rfl

theorem armsBrackets_le_iff {arms : List TypeArm} {bound : Nat}
    : armsBrackets arms ≤ bound ↔ ∀ arm ∈ arms, armBrackets arm ≤ bound :=
  greatest_le_iff rfl fun _ _ => rfl

theorem membersToJson_eq (members : List Expression) : membersToJson members = members.map toJson :=
  eq_map rfl (fun _ _ => rfl) members

theorem armsToJson_eq (arms : List TypeArm) : armsToJson arms = arms.map armToJson :=
  eq_map rfl (fun _ _ => rfl) arms

/-- An object whose fields are all canonical is canonical, if their names are different. -/
theorem canonical_object {fields : List (String × Json)}
    (distinct : (fields.map Prod.fst).Nodup)
    (each : ∀ value ∈ fields.map Prod.snd, value.Canonical)
    : (Json.object fields).Canonical :=
  .object (fun _ present => each _ (List.mem_map_of_mem present)) distinct

section parts

variable {query : Option Expression} {members : List Expression} {arms : List TypeArm}

theorem canonical_queryToJson (below : ∀ inner, query = some inner → inner.toJson.Canonical)
    : (queryToJson query).Canonical := by
  cases query with
  | none => exact .null
  | some inner => exact below inner rfl

theorem canonical_membersToJson (each : ∀ member ∈ members, member.toJson.Canonical)
    : (Json.array (membersToJson members)).Canonical := by
  rw [membersToJson_eq]
  exact .array (List.forall_mem_map.mpr each)

theorem canonical_armsToJson
    (each
      : ∀ selector query, TypeArm.arm selector (some query) ∈ arms → query.toJson.Canonical)
    : (Json.array (armsToJson arms)).Canonical := by
  rw [armsToJson_eq]
  refine .array (List.forall_mem_map.mpr fun ⟨selector, query⟩ present => ?_)
  have below : (queryToJson query).Canonical :=
    canonical_queryToJson fun inner same => each selector inner (same ▸ present)
  rw [armToJson]
  exact canonical_object (by simp) (by simp [Json.Canonical.string, below])

theorem height_queryToJson
    (below : ∀ inner, query = some inner → inner.toJson.height = inner.brackets)
    : (queryToJson query).height = queryBrackets query := by
  cases query with
  | none => rfl
  | some inner => exact below inner rfl

theorem itemsHeight_membersToJson
    (each : ∀ member ∈ members, member.toJson.height = member.brackets)
    : Json.itemsHeight (membersToJson members) = memberBrackets members := by
  refine eq_of_forall_ge_iff fun bound => ?_
  rw [membersToJson_eq, Json.itemsHeight_le_iff, List.forall_mem_map, memberBrackets_le_iff]
  exact forall₂_congr fun member present => by rw [each member present]

theorem itemsHeight_armsToJson
    (each
      : ∀ selector query, TypeArm.arm selector (some query) ∈ arms →
          query.toJson.height = query.brackets)
    : Json.itemsHeight (armsToJson arms) = armsBrackets arms := by
  refine eq_of_forall_ge_iff fun bound => ?_
  rw [armsToJson_eq, Json.itemsHeight_le_iff, List.forall_mem_map, armsBrackets_le_iff]
  refine forall₂_congr fun ⟨selector, query⟩ present => ?_
  have below : (queryToJson query).height = queryBrackets query :=
    height_queryToJson fun inner same => each selector inner (same ▸ present)
  simp [armToJson, armBrackets, Json.height, Json.fieldsHeight, Json.fieldHeight, below]

end parts

/-- The stored form of an expression is canonical, by induction on the expression. -/
theorem canonical_toJson (expression : Expression) : expression.toJson.Canonical := by
  induction expression with
  | boolean combiner members ih =>
      rw [toJson]
      refine canonical_object (by simp) ?_
      simp [Json.Canonical.string, canonical_membersToJson ih]
  | property id operator operand =>
      rw [toJson]
      exact canonical_object (by simp) (by simp [Json.Canonical.string])
  | relationship negated id query ih =>
      rw [toJson]
      refine canonical_object (by simp) ?_
      simp [Json.Canonical.string, canonical_queryToJson ih]
  | name operator operand =>
      rw [toJson]
      exact canonical_object (by simp) (by simp [Json.Canonical.string])
  | insight negated badge =>
      rw [toJson]
      exact canonical_object (by simp) (by simp [Json.Canonical.string])
  | typeSwitch arms ih =>
      rw [toJson]
      refine canonical_object (by simp) ?_
      simp [Json.Canonical.string, canonical_armsToJson ih]

/-- The stored form of an expression nests as deep as its nodes say, by induction on the
expression.
-/
theorem height_toJson (expression : Expression)
    : expression.toJson.height = expression.brackets := by
  induction expression with
  | boolean combiner members ih =>
      simp [toJson, brackets, Json.height, Json.fieldsHeight, Json.fieldHeight,
        itemsHeight_membersToJson ih]
  | property id operator operand => rfl
  | relationship negated id query ih =>
      simp [toJson, brackets, Json.height, Json.fieldsHeight, Json.fieldHeight,
        height_queryToJson ih]
  | name operator operand => rfl
  | insight negated badge => rfl
  | typeSwitch arms ih =>
      simp [toJson, brackets, Json.height, Json.fieldsHeight, Json.fieldHeight,
        itemsHeight_armsToJson ih]

end QueryTree.Expression
