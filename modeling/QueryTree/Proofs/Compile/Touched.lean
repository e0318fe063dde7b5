import QueryTree.Proofs.Compile.Node
import QueryTree.Proofs.Compile.Place
import QueryTree.Proofs.Expression.Induction
import QueryTree.Proofs.Schema.NameMap
import QueryTree.Proofs.Schema.Plain

/-! The types that compilation touches. Compiling an expression asks the schema only for the type it
starts from, for the types its arms name, and for the types that its relationships lead to where
they have a query. No other type of the schema matters, for the code or for the fault.
-/

namespace QueryTree

namespace Expression

mutual

/-- The names of types in the arms of an expression. -/
def selectors : Expression → List String
  | .boolean _ members => memberSelectors members
  | .relationship _ _ query => querySelectors query
  | .typeSwitch arms => armsSelectors arms
  | .property _ _ _ | .name _ _ | .insight _ _ => []
termination_by structural expression => expression

def memberSelectors : List Expression → List String
  | [] => []
  | member :: rest => member.selectors ++ memberSelectors rest
termination_by structural members => members

def querySelectors : Option Expression → List String
  | none => []
  | some query => query.selectors
termination_by structural query => query

def armsSelectors : List TypeArm → List String
  | [] => []
  | arm :: rest => armSelectors arm ++ armsSelectors rest
termination_by structural arms => arms

def armSelectors : TypeArm → List String
  | .arm selector query => selector :: querySelectors query
termination_by structural arm => arm

end

end Expression

/-- The type that a relationship with a query leads to, where the relationship is there. -/
def Place.target? : Place → Option String
  | .node type _ (.relationship _ id (some _)) =>
      (type.relationship? id).map Relationship.target
  | _ => none

/-- The names of types that an expression touches from the type called `name` on: that type, all
types in arms, and the targets of the relationships with a query, each looked up in the type that it
is judged for.
-/
def Expression.touched (schema : Schema) (name : String) (expression : Expression)
    : List String :=
  name ::
    (expression.selectors ++
      match schema.get? name with
      | none => []
      | some type => (expression.places schema type 1).filterMap Place.target?)

/-- Two schemas have the same type, or no type, under each of the names. -/
def Schema.AgreeOn (schema other : Schema) (names : List String) : Prop :=
  ∀ name ∈ names, schema.get? name = other.get? name

namespace Schema.AgreeOn

variable {schema other : Schema} {names more : List String}

theorem append
    : schema.AgreeOn other (names ++ more)
      ↔ schema.AgreeOn other names ∧ schema.AgreeOn other more :=
  List.forall_mem_append

theorem cons {name : String}
    : schema.AgreeOn other (name :: names)
      ↔ schema.get? name = other.get? name ∧ schema.AgreeOn other names :=
  List.forall_mem_cons

end Schema.AgreeOn

/-- Two schemas agree on the targets of the relationships in places. -/
def Schema.AgreeInPlaces (schema other : Schema) (places : List Place) : Prop :=
  schema.AgreeOn other (places.filterMap Place.target?)

theorem Schema.AgreeInPlaces.append {schema other : Schema} {places rest : List Place}
    : schema.AgreeInPlaces other (places ++ rest)
      ↔ schema.AgreeInPlaces other places ∧ schema.AgreeInPlaces other rest := by
  unfold AgreeInPlaces
  rw [List.filterMap_append]
  exact AgreeOn.append

namespace Compiler

section nodes

variable {schema other : Schema} {maxDepth : Nat}

theorem members_congr {type : ObjectType} {subject : Term} {depth : Nat}
    {members : List Expression} (named : schema.AgreeOn other (Expression.memberSelectors members))
    (led : schema.AgreeInPlaces other (Expression.memberPlaces schema type depth members))
    (each
      : ∀ member ∈ members,
          schema.AgreeOn other member.selectors
          → schema.AgreeInPlaces other (member.places schema type depth)
          → node ⟨schema, maxDepth⟩ type subject depth member
            = node ⟨other, maxDepth⟩ type subject depth member)
    : Compiler.members ⟨schema, maxDepth⟩ type subject depth members
      = Compiler.members ⟨other, maxDepth⟩ type subject depth members := by
  induction members with
  | nil => rw [Compiler.members, Compiler.members]
  | cons member rest ih =>
      obtain ⟨namedHere, namedAfter⟩ := Schema.AgreeOn.append.mp named
      obtain ⟨ledHere, ledAfter⟩ := Schema.AgreeInPlaces.append.mp led
      have here := each member List.mem_cons_self namedHere ledHere
      have after := ih namedAfter ledAfter fun inner present =>
        each inner (List.mem_cons_of_mem _ present)
      rw [Compiler.members, Compiler.members, here, after]

theorem arm_congr {depth : Nat} {selector : String} {query : Option Expression}
    (named : schema.AgreeOn other (Expression.armSelectors (.arm selector query)))
    (led
      : schema.AgreeInPlaces other
          (Expression.armPlaces schema (depth + 1) (.arm selector query)))
    (below
      : ∀ inner, query = some inner → ∀ type,
          schema.AgreeOn other inner.selectors
          → schema.AgreeInPlaces other (inner.places schema type (depth + 1))
          → node ⟨schema, maxDepth⟩ type (.name narrowedName) (depth + 1) inner
            = node ⟨other, maxDepth⟩ type (.name narrowedName) (depth + 1) inner)
    : Compiler.arm ⟨schema, maxDepth⟩ depth (.arm selector query)
      = Compiler.arm ⟨other, maxDepth⟩ depth (.arm selector query) := by
  rw [Expression.armSelectors] at named
  rw [Expression.armPlaces] at led
  obtain ⟨same, named⟩ := Schema.AgreeOn.cons.mp named
  rw [Compiler.arm, Compiler.arm]
  unfold Schema.require
  rw [← same]
  cases known : schema.get? selector with
  | none => rfl
  | some type =>
      cases query with
      | none => rfl
      | some inner =>
          -- A selector leads nowhere by itself.
          replace led
              : schema.AgreeInPlaces other
                  (Expression.queryPlaces schema selector (depth + 1) (some inner)) :=
            led
          simp only [Expression.queryPlaces, known] at led
          dsimp only [bind, Except.bind]
          rw [Compiler.guard, Compiler.guard, below inner rfl type named led]

theorem arms_congr {depth : Nat} {arms : List TypeArm}
    (named : schema.AgreeOn other (Expression.armsSelectors arms))
    (led : schema.AgreeInPlaces other (Expression.armsPlaces schema (depth + 1) arms))
    (each
      : ∀ selector query, TypeArm.arm selector (some query) ∈ arms → ∀ type,
          schema.AgreeOn other query.selectors
          → schema.AgreeInPlaces other (query.places schema type (depth + 1))
          → node ⟨schema, maxDepth⟩ type (.name narrowedName) (depth + 1) query
            = node ⟨other, maxDepth⟩ type (.name narrowedName) (depth + 1) query)
    : Compiler.arms ⟨schema, maxDepth⟩ depth arms
      = Compiler.arms ⟨other, maxDepth⟩ depth arms := by
  induction arms with
  | nil => rw [Compiler.arms, Compiler.arms]
  | cons arm rest ih =>
      obtain ⟨selector, query⟩ := arm
      obtain ⟨namedHere, namedAfter⟩ := Schema.AgreeOn.append.mp named
      obtain ⟨ledHere, ledAfter⟩ := Schema.AgreeInPlaces.append.mp led
      have here := arm_congr namedHere ledHere fun inner same =>
        each selector inner (same ▸ List.mem_cons_self)
      have after := ih namedAfter ledAfter fun selector inner present =>
        each selector inner (List.mem_cons_of_mem _ present)
      rw [Compiler.arms, Compiler.arms, here, after]

/-- A node that schemas agree on compiles to the same over both of them, or meets the same fault, by
induction on the expression.
-/
theorem node_congr (type : ObjectType) (subject : Term) (depth : Nat) {expression : Expression}
    (named : schema.AgreeOn other expression.selectors)
    (led : schema.AgreeInPlaces other (expression.places schema type depth))
    : node ⟨schema, maxDepth⟩ type subject depth expression
      = node ⟨other, maxDepth⟩ type subject depth expression := by
  induction expression generalizing type subject depth with
  | boolean combiner members ih =>
      rw [Expression.selectors] at named
      rw [Expression.places] at led
      replace led
          : schema.AgreeInPlaces other (Expression.memberPlaces schema type (depth + 1) members) :=
        led
      by_cases empty : members = []
      · subst empty
        unfold node
        rfl
      · have same := members_congr named led fun member present =>
          ih member present type subject (depth + 1)
        rw [node_boolean empty, node_boolean empty, same]
  | property id operator operand => rw [node, node]
  | relationship negated id query ih =>
      rw [Expression.selectors] at named
      rw [Expression.places] at led
      rw [node, node]
      cases found : type.relationship? id with
      | none => rfl
      | some declared =>
          simp only [found] at led
          cases query with
          | none =>
              dsimp only
              rw [relationshipTest, relationshipTest]
          | some inner =>
              have target
                  : (Place.node type depth (.relationship negated id (some inner))).target?
                    = some declared.target := by
                simp [Place.target?, found]
              rw [Schema.AgreeInPlaces, List.filterMap_cons_some target, Schema.AgreeOn.cons] at led
              obtain ⟨same, led⟩ := led
              dsimp only
              rw [relationshipTest, relationshipTest]
              unfold Schema.require
              rw [← same]
              cases known : schema.get? declared.target with
              | none => rfl
              | some target =>
                  simp only [Expression.queryPlaces, known] at led
                  -- Whatever is done with the query, for every subject it compiles to the same.
                  have alike
                      : (fun subject => node ⟨schema, maxDepth⟩ target subject (depth + 1) inner)
                        = fun subject => node ⟨other, maxDepth⟩ target subject (depth + 1) inner :=
                    funext fun subject => ih inner rfl target subject (depth + 1) named led
                  simp only [bind, Except.bind, alike]
  | name operator operand => rw [node, node]
  | insight negated badge => rw [node, node]
  | typeSwitch arms ih =>
      rw [Expression.selectors] at named
      rw [Expression.places] at led
      replace led
          : schema.AgreeInPlaces other (Expression.armsPlaces schema (depth + 1) arms) :=
        led
      by_cases empty : arms = []
      · subst empty
        unfold node
        rfl
      · have same := arms_congr named led fun selector query present type =>
          ih selector query present type (.name narrowedName) (depth + 1)
        rw [node_typeSwitch empty, node_typeSwitch empty, same]

end nodes

theorem generateForType_congr {schema other : Schema} {name : String} {expression : Expression}
    (agree : schema.AgreeOn other (expression.touched schema name)) (maxDepth : Nat)
    (subject : String)
    : generateForType ⟨schema, maxDepth⟩ name subject expression
      = generateForType ⟨other, maxDepth⟩ name subject expression := by
  obtain ⟨same, below⟩ := Schema.AgreeOn.cons.mp agree
  obtain ⟨named, led⟩ := Schema.AgreeOn.append.mp below
  unfold generateForType Schema.require
  simp only [← same]
  cases known : schema.get? name with
  | none => rfl
  | some type =>
      simp only [known] at led
      unfold generate
      dsimp only
      rw [node_congr type (.name subject) 1 named led]

/-- Compilation depends only on the types it touches. Over two schemas that have the same types, or
none, under the names that an expression touches over the first of them, it ends with the same code
or the same fault. So putting a type under any other name, over one that is there or not, or taking
the type of such a name away, changes nothing.
-/
theorem generateForType_depends_on_touched (schema : Schema) (name : String)
    (expression : Expression)
    : (∀ other,
        schema.AgreeOn other (expression.touched schema name)
        → ∀ maxDepth subject,
            generateForType ⟨schema, maxDepth⟩ name subject expression
            = generateForType ⟨other, maxDepth⟩ name subject expression)
      ∧ ∀ untouched,
          untouched ∉ expression.touched schema name
          → ∀ maxDepth subject,
              (∀ type,
                generateForType ⟨schema.insert untouched type, maxDepth⟩ name subject expression
                = generateForType ⟨schema, maxDepth⟩ name subject expression)
              ∧ generateForType ⟨schema.erase untouched, maxDepth⟩ name subject expression
                = generateForType ⟨schema, maxDepth⟩ name subject expression := by
  refine ⟨fun other agree => generateForType_congr agree, ?_⟩
  intro untouched absent maxDepth subject
  have different (touched : String) (member : touched ∈ expression.touched schema name)
      : untouched ≠ touched :=
    fun same => absent (same ▸ member)
  constructor
  · intro type
    refine (generateForType_congr (fun touched member => ?_) maxDepth subject).symm
    exact (NameMap.get?_insert_of_ne (different touched member) schema type).symm
  · refine (generateForType_congr (fun touched member => ?_) maxDepth subject).symm
    exact (NameMap.get?_erase_of_ne (different touched member) schema).symm

/-- Devices with an insight of any kind, and with a peer of that name. Only the peers are asked
something, so only their type is looked up.
-/
def devicesQuery : Expression :=
  .boolean .and
    [ .relationship false "insights" none,
      .relationship false "peers" (some (.name .equal "core")) ]

/-- A schema of devices and routers, without insights. -/
def devicesAndRouters : Schema :=
  (NameMap.empty.insert "Router" .empty).insert "Device" SchemaDocument.deviceEntry.toObjectType

/-- The query touches devices only: with routers in the place of insights, and without the type of
insights, the code is the same.
-/
theorem devices_touch_devices
    : SchemaDocument.devicesSchema.AgreeOn devicesAndRouters
        (devicesQuery.touched SchemaDocument.devicesSchema "Device")
      ∧ "RiskTriggerInsight" ∉ devicesQuery.touched SchemaDocument.devicesSchema "Device"
      ∧ generateForType ⟨devicesAndRouters, 3⟩ "Device" "d" devicesQuery
        = .ok "(!d.insights.empty() && d.peers.any((s) => s.name == \"core\"))"
      ∧ generateForType ⟨SchemaDocument.devicesSchema.erase "RiskTriggerInsight", 3⟩ "Device" "d"
          devicesQuery
        = .ok "(!d.insights.empty() && d.peers.any((s) => s.name == \"core\"))" := by
  have agree
      : SchemaDocument.devicesSchema.AgreeOn devicesAndRouters
          (devicesQuery.touched SchemaDocument.devicesSchema "Device") := by
    have names
        : devicesQuery.touched SchemaDocument.devicesSchema "Device" = ["Device", "Device"] :=
      rfl
    rw [names, Schema.AgreeOn.cons, Schema.AgreeOn.cons]
    exact ⟨rfl, rfl, nofun⟩
  have untouched
      : "RiskTriggerInsight" ∉ devicesQuery.touched SchemaDocument.devicesSchema "Device" := by
    decide
  obtain ⟨same, changed⟩ :=
    generateForType_depends_on_touched SchemaDocument.devicesSchema "Device" devicesQuery
  refine ⟨agree, untouched, ?_, ?_⟩
  · exact (same devicesAndRouters agree 3 "d").symm.trans rfl
  · exact (changed "RiskTriggerInsight" untouched 3 "d").2.trans rfl

end Compiler

end QueryTree
