import QueryTree.Proofs.Schema.Member
import QueryTree.Proofs.Schema.NameMap
import QueryTree.Schema.Document.Basic

/-! Plain schemas: every value is read as a member of its name, and every relationship is a
collection or singular. Whatever a document describes is plain; only schemas put together by hand
can leave the code of their members to functions.
-/

namespace QueryTree

/-- The members of an object type are read by their names, its relationships are collections or
singular, and its naming is a member.
-/
structure ObjectType.Plain (type : ObjectType) : Prop where
  properties : ∀ property ∈ type.properties, property.accessor = .member property.id
  relationships
    : ∀ relationship ∈ type.relationships,
        relationship.shape = .collection ∨ relationship.shape = .singular
  naming : ∀ naming, type.naming = some naming → ∃ id, naming = .member id

def Schema.Plain (schema : Schema) : Prop :=
  ∀ name type, schema.get? name = some type → type.Plain

/-- A property looked up in a plain type is read as the member of its name. -/
theorem ObjectType.Plain.accessor_of_property? {type : ObjectType} (plain : type.Plain)
    {id : String} {property : Property} (found : type.property? id = some property)
    : property.accessor = .member id := by
  have same : property.id = id := by simpa using List.find?_some found
  rw [plain.properties property (List.mem_of_find?_eq_some found), same]

/-- A relationship looked up in a plain type is a collection or singular. -/
theorem ObjectType.Plain.shape_of_relationship? {type : ObjectType} (plain : type.Plain)
    {id : String} {relationship : Relationship}
    (found : type.relationship? id = some relationship)
    : relationship.shape = .collection ∨ relationship.shape = .singular :=
  plain.relationships relationship (List.mem_of_find?_eq_some found)

/-- A relationship looked up in a plain type wraps up its query itself. -/
theorem ObjectType.Plain.wrapping?_ne_none {type : ObjectType} (plain : type.Plain) {id : String}
    {relationship : Relationship} (found : type.relationship? id = some relationship)
    (subject : Term)
    : relationship.wrapping? subject ≠ none :=
  Relationship.wrapping?_ne_none (plain.shape_of_relationship? found) subject

theorem ObjectType.Plain.blind {type : ObjectType} (plain : type.Plain) : type.Blind :=
  fun relationship declared =>
    (Relationship.wrapsOnce_of_shape (plain.relationships relationship declared)).blind

theorem ObjectType.Plain.steady {type : ObjectType} (plain : type.Plain) : type.Steady :=
  fun relationship declared =>
    (Relationship.wrapsOnce_of_shape (plain.relationships relationship declared)).steady

theorem ObjectType.id_of_relationship? {type : ObjectType} {id : String}
    {relationship : Relationship} (found : type.relationship? id = some relationship)
    : relationship.id = id := by
  simpa using List.find?_some found

namespace Schema

theorem Plain.blind {schema : Schema} (plain : schema.Plain) : schema.Blind :=
  fun name type found => (plain name type found).blind

theorem Plain.steady {schema : Schema} (plain : schema.Plain) : schema.Steady :=
  fun name type found => (plain name type found).steady

theorem Plain.of_require {schema : Schema} (plain : schema.Plain) {name : String}
    {type : ObjectType} (found : schema.require name = .ok type)
    : type.Plain :=
  plain name type (require_eq_ok.mp found)

end Schema

namespace SchemaDocument

theorem TypeEntry.toObjectType_plain (entry : TypeEntry) : entry.toObjectType.Plain where
  properties := by
    intro property member
    obtain ⟨described, _, rfl⟩ := List.mem_map.mp member
    rfl
  relationships := by
    intro relationship member
    obtain ⟨described, _, rfl⟩ := List.mem_map.mp member
    cases h : described.cardinality <;> simp [RelationshipEntry.toRelationship, shapeOf, h]
  naming := by
    intro naming named
    obtain ⟨id, _, rfl⟩ := Option.map_eq_some_iff.mp named
    exact ⟨id, rfl⟩

/-- The schema of a document has just the object types of its entries. -/
theorem eq_mapValues_of_toSchema {document : SchemaDocument} {schema : Schema}
    (valid : document.toSchema = .ok schema)
    : schema = document.types.mapValues TypeEntry.toObjectType := by
  unfold toSchema at valid
  split at valid
  · cases valid
  · exact (Except.ok.inj valid).symm

theorem get?_of_toSchema {document : SchemaDocument} {schema : Schema}
    (valid : document.toSchema = .ok schema) {name : String} {entry : TypeEntry}
    (declared : document.types.get? name = some entry)
    : schema.get? name = some entry.toObjectType := by
  rw [eq_mapValues_of_toSchema valid, NameMap.get?_mapValues, declared]
  rfl

/-- The schema of a document is plain, since each of its types comes from an entry. -/
theorem plain_of_toSchema {document : SchemaDocument} {schema : Schema}
    (valid : document.toSchema = .ok schema)
    : schema.Plain := by
  intro name type found
  have member := NameMap.mem_of_get? found
  rw [eq_mapValues_of_toSchema valid] at member
  obtain ⟨entry, _, same⟩ := List.mem_map.mp member
  have described : entry.2.toObjectType = type := (Prod.mk.inj same).2
  exact described ▸ entry.2.toObjectType_plain

/-- What a document says about devices: they have a name, a number of ports and tags, some peers, at
most one owner that is a device itself, and insights.
-/
def deviceEntry : TypeEntry where
  supertypes := []
  properties :=
    [ ⟨"name", none, "", .string, none, false, false⟩,
      ⟨"ports", none, "", .number, none, false, false⟩,
      ⟨"tags", none, "", .stringList, none, false, false⟩ ]
  relationships :=
    [ ⟨"peers", none, "", "Device", .collection⟩,
      ⟨"owner", none, "", "Device", .singular⟩,
      ⟨"insights", none, "", "RiskTriggerInsight", .collection⟩ ]
  naming := some "name"

/-- A small document, to apply theorems to. -/
def devices : SchemaDocument where
  types :=
    { entries := [("Device", deviceEntry), ("RiskTriggerInsight", ⟨[], [], [], none⟩)]
      ascending := List.pairwise_pair.mpr (by decide) }

def devicesSchema : Schema :=
  devices.types.mapValues TypeEntry.toObjectType

theorem devices_toSchema : devices.toSchema = .ok devicesSchema :=
  rfl

end SchemaDocument

end QueryTree
