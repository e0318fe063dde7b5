import QueryTree.Proofs.Compile.Node
import QueryTree.Proofs.Expression.Induction
import QueryTree.Proofs.Schema.Plain

/-! Schemas that grow. New types, and new members behind the old ones, change nothing about the code
of what compiles already: members are looked up by their first declaration, and nothing that
compiles rests on a member or a type not being there.
-/

namespace QueryTree

/-- A type has all members of another one, in front and in the same order, and its naming. New
members may have the names of old ones, and supertypes are free.
-/
structure ObjectType.GrowsTo (type larger : ObjectType) : Prop where
  properties : type.properties <+: larger.properties
  relationships : type.relationships <+: larger.relationships
  naming : ∀ naming, type.naming = some naming → larger.naming = some naming

namespace ObjectType.GrowsTo

variable {type larger : ObjectType} (grows : type.GrowsTo larger)

theorem refl (type : ObjectType) : type.GrowsTo type :=
  ⟨List.prefix_rfl, List.prefix_rfl, fun _ named => named⟩

include grows

/-- What is found stays the first of its name. -/
theorem property? {id : String} {property : Property} (found : type.property? id = some property)
    : larger.property? id = some property :=
  grows.properties.find?_eq_some found

theorem relationship? {id : String} {relationship : Relationship}
    (found : type.relationship? id = some relationship)
    : larger.relationship? id = some relationship :=
  grows.relationships.find?_eq_some found

theorem hasInsights (capable : type.hasInsights = true) : larger.hasInsights = true := by
  unfold ObjectType.hasInsights at capable ⊢
  cases found : type.relationship? insightsId with
  | none => simp [found] at capable
  | some relationship =>
      rw [grows.relationship? found]
      rwa [found] at capable

end ObjectType.GrowsTo

/-- A schema has all types of another one, grown or as they are. -/
def Schema.GrowsTo (schema larger : Schema) : Prop :=
  ∀ name type, schema.get? name = some type →
    ∃ grown, larger.get? name = some grown ∧ type.GrowsTo grown

theorem Schema.GrowsTo.require {schema larger : Schema} (grows : schema.GrowsTo larger)
    {name : String} {type : ObjectType} (found : schema.require name = .ok type)
    : ∃ grown, larger.require name = .ok grown ∧ type.GrowsTo grown := by
  obtain ⟨grown, known, growsType⟩ := grows name type (require_eq_ok.mp found)
  exact ⟨grown, require_eq_ok.mpr known, growsType⟩

namespace Compiler

variable {schema larger : Schema} {maxDepth : Nat}

theorem armTerm_of_growsTo (grows : schema.GrowsTo larger) {depth : Nat} {arm : TypeArm}
    {term : String × Term} (compiled : ArmTerm ⟨schema, maxDepth⟩ depth arm term)
    (below
      : ∀ selector query, arm = .arm selector (some query) → ∀ type grown guard,
          schema.require selector = .ok type
          → type.GrowsTo grown
          → node ⟨schema, maxDepth⟩ type (.name narrowedName) (depth + 1) query = .ok guard
          → node ⟨larger, maxDepth⟩ grown (.name narrowedName) (depth + 1) query = .ok guard)
    : ArmTerm ⟨larger, maxDepth⟩ depth arm term := by
  cases compiled with
  | always found =>
      obtain ⟨grown, known, _⟩ := grows.require found
      exact .always known
  | guarded found holds =>
      obtain ⟨grown, known, growsType⟩ := grows.require found
      exact .guarded known (below _ _ rfl _ grown _ found growsType holds)

/-- A node compiles to the same term for a type that has grown, over a schema that has grown, by
induction on the expression.
-/
theorem node_of_growsTo (steady : schema.Steady) (grows : schema.GrowsTo larger)
    {type grown : ObjectType} (steadyType : type.Steady) (growsType : type.GrowsTo grown)
    {subject : Term} {depth : Nat} {expression : Expression} {term : Term}
    (compiled : node ⟨schema, maxDepth⟩ type subject depth expression = .ok term)
    : node ⟨larger, maxDepth⟩ grown subject depth expression = .ok term := by
  induction expression generalizing type grown subject depth term with
  | boolean combiner members ih =>
      obtain ⟨shallow, made⟩ := node_eq_ok.mp compiled
      cases made with
      | boolean nonempty each =>
          -- Each member is compiled again, with what the induction says of it.
          have present := (List.forall₂_and_left members _).mpr ⟨fun _ member => member, each⟩
          have again := present.imp fun member inner ⟨here, done⟩ =>
            ih member here steadyType growsType done
          exact node_eq_ok.mpr ⟨shallow, .boolean nonempty again⟩
  | property id operator operand =>
      obtain ⟨shallow, made⟩ := node_eq_ok.mp compiled
      cases made with
      | property found supported read =>
          exact node_eq_ok.mpr ⟨shallow, .property (growsType.property? found) supported read⟩
  | relationship negated id query ih =>
      obtain ⟨shallow, made⟩ := node_eq_ok.mp compiled
      cases made with
      | existing found =>
          exact node_eq_ok.mpr ⟨shallow, .existing (growsType.relationship? found)⟩
      | matching found known wraps holds =>
          obtain ⟨_, still, growsTarget⟩ := grows.require known
          have again := ih _ rfl (steady.of_require known) growsTarget holds
          exact node_eq_ok.mpr
            ⟨shallow, .matching (growsType.relationship? found) still wraps again⟩
      | written found known free done =>
          obtain ⟨_, still, growsTarget⟩ := grows.require known
          have again := steadyType _ (List.mem_of_find?_eq_some found) _ _ _
            (fun _ _ holds => ih _ rfl (steady.of_require known) growsTarget holds) _ done
          exact node_eq_ok.mpr
            ⟨shallow, .written (growsType.relationship? found) still free again⟩
  | name operator operand =>
      obtain ⟨shallow, made⟩ := node_eq_ok.mp compiled
      cases made with
      | name named supported read =>
          exact node_eq_ok.mpr ⟨shallow, .name (growsType.naming _ named) supported read⟩
  | insight negated badge =>
      obtain ⟨shallow, made⟩ := node_eq_ok.mp compiled
      cases made with
      | insight capable =>
          exact node_eq_ok.mpr ⟨shallow, .insight (growsType.hasInsights capable)⟩
  | typeSwitch arms ih =>
      obtain ⟨shallow, made⟩ := node_eq_ok.mp compiled
      cases made with
      | typeSwitch nonempty each =>
          have present := (List.forall₂_and_left arms _).mpr ⟨fun _ arm => arm, each⟩
          have again := present.imp fun arm inner ⟨here, done⟩ =>
            armTerm_of_growsTo grows done fun selector query same _ _ _ found growsTarget holds =>
              ih selector query (same ▸ here) (steady.of_require found) growsTarget holds
          exact node_eq_ok.mpr ⟨shallow, .typeSwitch nonempty again⟩

/-- Growing the schema never breaks or changes compiled code. What compiles over a schema compiles
to the same code over every schema that the first one grows to. Only a function that writes other
code where more compiles could stand against that, and a plain schema has none at all.
-/
theorem generateForType_of_growsTo (steady : schema.Steady) (grows : schema.GrowsTo larger)
    {name subject : String} {expression : Expression} {code : String}
    (done : generateForType ⟨schema, maxDepth⟩ name subject expression = .ok code)
    : generateForType ⟨larger, maxDepth⟩ name subject expression = .ok code := by
  obtain ⟨type, term, known, compiled, rfl⟩ := generateForType_eq_ok.mp done
  obtain ⟨grown, still, growsType⟩ := grows name type known
  exact generateForType_eq_ok.mpr
    ⟨grown, term, still,
      node_of_growsTo steady grows (steady name type known) growsType compiled, rfl⟩

/-- The schema of devices with routers, which devices now extend, and with a second property `ports`
that holds a string.
-/
def devicesGrown : Schema :=
  (SchemaDocument.devicesSchema.insert "Device"
    ((SchemaDocument.deviceEntry.toObjectType.withSupertype "Router").withProperty
      (.member "ports" .string))).insert "Router" .empty

/-- A test of the number of ports keeps its code, though the string of that name has other operators
and literals.
-/
theorem devices_keep_code_grown
    : SchemaDocument.devicesSchema.Steady
      ∧ SchemaDocument.devicesSchema.GrowsTo devicesGrown
      ∧ generateForType ⟨SchemaDocument.devicesSchema, 2⟩ "Device" "d"
          (.relationship true "peers" (some (.property "ports" .greater "8")))
        = .ok "!(d.peers.any((s) => s.ports > 8))"
      ∧ generateForType ⟨devicesGrown, 2⟩ "Device" "d"
          (.relationship true "peers" (some (.property "ports" .greater "8")))
        = .ok "!(d.peers.any((s) => s.ports > 8))" := by
  have grows : SchemaDocument.devicesSchema.GrowsTo devicesGrown := by
    intro name type found
    have member := NameMap.mem_of_get? found
    rcases List.mem_cons.mp member with same | member
    · obtain ⟨rfl, rfl⟩ := Prod.mk.inj same
      exact ⟨_, rfl, List.prefix_append _ _, List.prefix_rfl, fun _ named => named⟩
    · obtain ⟨rfl, rfl⟩ := Prod.mk.inj (List.mem_singleton.mp member)
      exact ⟨_, rfl, .refl _⟩
  have steady := (SchemaDocument.plain_of_toSchema SchemaDocument.devices_toSchema).steady
  exact ⟨steady, grows, rfl, generateForType_of_growsTo steady grows rfl⟩

end Compiler

end QueryTree
