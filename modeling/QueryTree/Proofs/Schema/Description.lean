import QueryTree.Proofs.Schema.References

/-! The schema that a document describes. It has the types of the document, and since all references
hold, every member is found under its own name and every target is there.
-/

namespace QueryTree.SchemaDocument

/-- A schema has the types of a document, and under its name each member that the document
declares. A name of a property is not that of a relationship, and targets are there.
-/
structure Describes (document : SchemaDocument) (schema : Schema) : Prop where
  names : schema.names = document.types.names
  properties
    : ∀ name entry, document.types.get? name = some entry →
        ∀ declared ∈ entry.properties, ∃ type property,
          schema.get? name = some type
          ∧ type.property? declared.id = some property
          ∧ property.id = declared.id
          ∧ property.dataType = declared.dataType
          ∧ type.relationship? declared.id = none
  relationships
    : ∀ name entry, document.types.get? name = some entry →
        ∀ declared ∈ entry.relationships, ∃ type relationship target,
          schema.get? name = some type
          ∧ type.relationship? declared.id = some relationship
          ∧ relationship.id = declared.id
          ∧ relationship.target = declared.target
          ∧ type.property? declared.id = none
          ∧ schema.require relationship.target = .ok target

section document

variable {document : SchemaDocument} {schema : Schema}

theorem names_of_toSchema (valid : document.toSchema = .ok schema)
    : schema.names = document.types.names := by
  rw [eq_mapValues_of_toSchema valid]
  simp [NameMap.names, NameMap.mapValues]

/-- The types of a schema come from the entries of its document. -/
theorem exists_entry_of_get? (valid : document.toSchema = .ok schema) {name : String}
    {type : ObjectType} (found : schema.get? name = some type)
    : ∃ entry, document.types.get? name = some entry ∧ entry.toObjectType = type := by
  rw [eq_mapValues_of_toSchema valid, NameMap.get?_mapValues] at found
  exact Option.map_eq_some_iff.mp found

/-- The targets of relationships are types of the schema. -/
theorem exists_target_of_toSchema (valid : document.toSchema = .ok schema) {name : String}
    {type : ObjectType} (found : schema.get? name = some type)
    : ∀ relationship ∈ type.relationships,
        ∃ target, schema.get? relationship.target = some target := by
  obtain ⟨entry, declared, rfl⟩ := exists_entry_of_get? valid found
  intro relationship present
  obtain ⟨described, listed, rfl⟩ := List.mem_map.mp present
  have closed := closed_of_toSchema valid (name, entry) (NameMap.mem_of_get? declared)
  apply NameMap.exists_get?_of_mem_names
  rw [names_of_toSchema valid]
  exact closed.targets described listed

/-- A type is named by one of its properties. -/
theorem exists_property_of_naming (valid : document.toSchema = .ok schema) {name : String}
    {type : ObjectType} (found : schema.get? name = some type)
    : ∀ naming, type.naming = some naming →
        ∃ property ∈ type.properties, naming = .member property.id := by
  obtain ⟨entry, declared, rfl⟩ := exists_entry_of_get? valid found
  intro naming named
  obtain ⟨id, chosen, rfl⟩ := Option.map_eq_some_iff.mp named
  have closed := closed_of_toSchema valid (name, entry) (NameMap.mem_of_get? declared)
  obtain ⟨described, listed, rfl⟩ := closed.naming id chosen
  exact ⟨described.toProperty, List.mem_map_of_mem listed, rfl⟩

theorem TypeEntry.propertyIds_toObjectType (entry : TypeEntry)
    : entry.toObjectType.properties.map Property.id = entry.properties.map PropertyEntry.id :=
  List.map_map

theorem TypeEntry.relationshipIds_toObjectType (entry : TypeEntry)
    : entry.toObjectType.relationships.map Relationship.id
      = entry.relationships.map RelationshipEntry.id :=
  List.map_map

/-- Where members have different names, each is found under its own, and nothing else is. -/
theorem TypeEntry.property?_toObjectType {entry : TypeEntry} (distinct : entry.memberIds.Nodup)
    {declared : PropertyEntry} (listed : declared ∈ entry.properties)
    : entry.toObjectType.property? declared.id = some declared.toProperty
      ∧ entry.toObjectType.relationship? declared.id = none := by
  obtain ⟨properties, _, apart⟩ := List.nodup_append.mp distinct
  constructor
  · rw [← propertyIds_toObjectType] at properties
    exact find?_of_nodup properties (List.mem_map_of_mem listed)
  · apply find?_of_not_mem
    rw [relationshipIds_toObjectType]
    intro present
    exact apart _ (List.mem_map_of_mem listed) _ present rfl

theorem TypeEntry.relationship?_toObjectType {entry : TypeEntry}
    (distinct : entry.memberIds.Nodup) {declared : RelationshipEntry}
    (listed : declared ∈ entry.relationships)
    : entry.toObjectType.relationship? declared.id = some declared.toRelationship
      ∧ entry.toObjectType.property? declared.id = none := by
  obtain ⟨_, relationships, apart⟩ := List.nodup_append.mp distinct
  constructor
  · rw [← relationshipIds_toObjectType] at relationships
    exact find?_of_nodup relationships (List.mem_map_of_mem listed)
  · apply find?_of_not_mem
    rw [propertyIds_toObjectType]
    intro present
    exact apart _ present _ (List.mem_map_of_mem listed) rfl

/-- The schema of a document holds everything that the document declares. -/
theorem describes_of_toSchema (valid : document.toSchema = .ok schema)
    : document.Describes schema where
  names := names_of_toSchema valid
  properties := by
    intro name entry described declared listed
    have closed := closed_of_toSchema valid (name, entry) (NameMap.mem_of_get? described)
    obtain ⟨found, absent⟩ := TypeEntry.property?_toObjectType closed.members listed
    exact ⟨_, _, get?_of_toSchema valid described, found, rfl, rfl, absent⟩
  relationships := by
    intro name entry described declared listed
    have closed := closed_of_toSchema valid (name, entry) (NameMap.mem_of_get? described)
    obtain ⟨found, absent⟩ := TypeEntry.relationship?_toObjectType closed.members listed
    have known := get?_of_toSchema valid described
    obtain ⟨target, there⟩ :=
      exists_target_of_toSchema valid known _ (List.mem_of_find?_eq_some found)
    exact ⟨_, _, target, known, found, rfl, rfl, absent, Schema.require_eq_ok.mpr there⟩

/-- A document becomes a schema exactly if all its references hold. Otherwise it is refused with the
fault of the first reference, of the first type in order of the names, that does not hold. The
schema has the types of the document and all that they declare.
-/
theorem toSchema_judges_references (document : SchemaDocument)
    : ((∃ schema, document.toSchema = .ok schema) ↔ document.Closed)
      ∧ (∀ fault, document.toSchema = .error fault ↔ document.FirstFault fault)
      ∧ ∀ schema, document.toSchema = .ok schema → document.Describes schema := by
  refine ⟨⟨?_, ?_⟩, fun fault => toSchema_eq_error, fun schema => describes_of_toSchema⟩
  · rintro ⟨schema, valid⟩
    exact closed_of_toSchema valid
  · intro closed
    unfold toSchema
    rw [fault?_eq_none.mpr closed]
    exact ⟨_, rfl⟩

end document

/-- Of a hub that repeats a member, leads to an unknown type and is named by what it has not, before
a node with an unknown supertype, the repeated member is reported.
-/
theorem devices_described_and_hub_reported
    : devices.Describes devicesSchema
      ∧ FirstFault
          { types :=
              { entries :=
                  [ ("Hub", ⟨[], [⟨"port", none, "", .number, none, false, false⟩],
                      [⟨"port", none, "", "Port", .collection⟩], some "label"⟩),
                    ("Node", ⟨["Root"], [], [], none⟩) ]
                ascending := List.pairwise_pair.mpr (by decide) } }
          (.duplicateMember "Hub" "port") :=
  ⟨(toSchema_judges_references devices).2.2 _ devices_toSchema,
    ((toSchema_judges_references _).2.1 _).mp rfl⟩

end QueryTree.SchemaDocument
