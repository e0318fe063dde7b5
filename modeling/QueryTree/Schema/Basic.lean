import QueryTree.Schema.Member
import QueryTree.Schema.NameMap

/-! Schemas: the object types that expressions are checked against. Members are looked up by their
first declaration. An insight test needs a relationship called `insights` to one of the types that
carry badges.
-/

namespace QueryTree

/-- An object type: its supertypes, its members, and how an entity's name is read, if it has one. -/
structure ObjectType where
  supertypes : List String
  properties : List Property
  relationships : List Relationship
  naming : Option Accessor

namespace ObjectType

/-- The object type without members. -/
def empty : ObjectType := ⟨[], [], [], none⟩

/-- The object type with one more supertype; one it has already changes nothing. -/
def withSupertype (type : ObjectType) (name : String) : ObjectType :=
  if type.supertypes.contains name then type
  else { type with supertypes := type.supertypes ++ [name] }

/-- The object type with one more property. -/
def withProperty (type : ObjectType) (property : Property) : ObjectType :=
  { type with properties := type.properties ++ [property] }

/-- The object type with one more relationship. -/
def withRelationship (type : ObjectType) (relationship : Relationship) : ObjectType :=
  { type with relationships := type.relationships ++ [relationship] }

/-- The object type with a way to read an entity's name. -/
def withNaming (type : ObjectType) (naming : Accessor) : ObjectType :=
  { type with naming := some naming }

/-- The first property called `id`. -/
def property? (type : ObjectType) (id : String) : Option Property :=
  type.properties.find? fun property => property.id == id

/-- The first relationship called `id`. -/
def relationship? (type : ObjectType) (id : String) : Option Relationship :=
  type.relationships.find? fun relationship => relationship.id == id

/-- The relationship that leads to insights. -/
def insightsId : String := "insights"

/-- The types whose entities carry badges. -/
def insightTargets : List String := ["DiffableInsight", "RiskTriggerInsight"]

/-- Whether insight tests make sense for the type. -/
def hasInsights (type : ObjectType) : Bool :=
  match type.relationship? insightsId with
  | some relationship => insightTargets.contains relationship.target
  | none => false

end ObjectType

/-- The object types of a schema by name. -/
abbrev Schema := NameMap ObjectType

namespace Schema

/-- The type called `name`, or the fault of asking for one that is not there. -/
def require (schema : Schema) (name : String) : Except CompileFault ObjectType :=
  match schema.get? name with
  | some type => .ok type
  | none => .error (.unknownType name)

end Schema

end QueryTree
