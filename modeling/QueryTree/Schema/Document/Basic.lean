import QueryTree.Schema.Basic

/-! Schema documents: what a catalogue file says about its types, before its references are checked.
A document becomes a schema exactly when every supertype and every target of a relationship is a
type of the document, the members of each type have different names, and the property that names its
entities is one of its properties.
-/

namespace QueryTree

/-- How many entities a relationship leads to. -/
inductive Cardinality where
  | collection
  | singular
deriving DecidableEq

/-- The token of a cardinality. -/
def Cardinality.token : Cardinality → String
  | .collection => "collection"
  | .singular => "singular"

instance : Vocabulary Cardinality where
  noun := "cardinality"
  all := [.collection, .singular]
  token := Cardinality.token

namespace SchemaDocument

/-- What a document says about a property. -/
structure PropertyEntry where
  id : String
  displayName : Option String
  description : String
  dataType : DataType
  enumValues : Option (List String)
  openEnum : Bool
  unorderedEnum : Bool
deriving DecidableEq

/-- What a document says about a relationship. -/
structure RelationshipEntry where
  id : String
  displayName : Option String
  description : String
  target : String
  cardinality : Cardinality
deriving DecidableEq

/-- What a document says about a type. -/
structure TypeEntry where
  supertypes : List String
  properties : List PropertyEntry
  relationships : List RelationshipEntry
  /-- The property that is read as an entity's name. -/
  naming : Option String
deriving DecidableEq

end SchemaDocument

/-- What a document says about all its types. -/
structure SchemaDocument where
  types : NameMap SchemaDocument.TypeEntry

/-- A reference of a schema document that does not hold. -/
inductive SchemaFault where
  | unknownSupertype (type supertype : String)
  | duplicateMember (type member : String)
  | unknownTarget (type relationship target : String)
  | unknownNamingProperty (type property : String)
deriving DecidableEq

/-- The wording of a fault in a schema document. -/
def SchemaFault.message : SchemaFault → String
  | .unknownSupertype type supertype =>
      "type '" ++ type ++ "' declares unknown supertype '" ++ supertype ++ "'"
  | .duplicateMember type member => "type '" ++ type ++ "' repeats member '" ++ member ++ "'"
  | .unknownTarget type relationship target =>
      "relationship '" ++ type ++ "." ++ relationship ++ "' targets unknown type '" ++ target ++ "'"
  | .unknownNamingProperty type property =>
      "type '" ++ type ++ "' names unknown naming property '" ++ property ++ "'"

namespace SchemaDocument

/-- The property that an entry describes, read as the member of its name. -/
def PropertyEntry.toProperty (entry : PropertyEntry) : Property :=
  let plain := Property.member entry.id entry.dataType
  { plain with
    displayName := entry.displayName.getD entry.id
    description := entry.description
    enumValues := entry.enumValues.or plain.enumValues
    openEnum := entry.openEnum
    unorderedEnum := entry.unorderedEnum }

/-- The shape of a relationship of a given cardinality. -/
def shapeOf : Cardinality → RelationshipShape
  | .collection => .collection
  | .singular => .singular

/-- The relationship that an entry describes. -/
def RelationshipEntry.toRelationship (entry : RelationshipEntry) : Relationship :=
  { id := entry.id
    displayName := entry.displayName.getD entry.id
    description := entry.description
    target := entry.target
    shape := shapeOf entry.cardinality }

namespace TypeEntry

/-- The object type that an entry describes. -/
def toObjectType (entry : TypeEntry) : ObjectType :=
  { supertypes := entry.supertypes
    properties := entry.properties.map PropertyEntry.toProperty
    relationships := entry.relationships.map RelationshipEntry.toRelationship
    naming := entry.naming.map Accessor.member }

/-- The names of all members, properties before relationships. -/
def memberIds (entry : TypeEntry) : List String :=
  entry.properties.map (·.id) ++ entry.relationships.map (·.id)

end TypeEntry

/-- The first name that stands in a list a second time. -/
def firstRepeated? : List String → List String → Option String
  | _, [] => none
  | seen, name :: rest =>
      if seen.contains name then some name else firstRepeated? (name :: seen) rest

/-- The first fault of the type called `name`: of its supertypes, of the names of its members, of
the targets of its relationships, and of its naming, in that order.
-/
def typeFault? (document : SchemaDocument) (name : String) (entry : TypeEntry)
    : Option SchemaFault :=
  match entry.supertypes.find? fun supertype => !document.types.contains supertype with
  | some supertype => some (.unknownSupertype name supertype)
  | none =>
      match firstRepeated? [] entry.memberIds with
      | some member => some (.duplicateMember name member)
      | none =>
          match entry.relationships.find? fun relationship =>
              !document.types.contains relationship.target with
          | some relationship => some (.unknownTarget name relationship.id relationship.target)
          | none =>
              match entry.naming with
              | none => none
              | some naming =>
                  if entry.properties.any fun property => property.id == naming then none
                  else some (.unknownNamingProperty name naming)

/-- The first fault of the document, with its types in order of their names. -/
def fault? (document : SchemaDocument) : Option SchemaFault :=
  document.types.entries.findSome? fun entry => document.typeFault? entry.1 entry.2

/-- The schema that the document describes, if it has no fault. -/
def toSchema (document : SchemaDocument) : Except SchemaFault Schema :=
  match document.fault? with
  | some fault => .error fault
  | none => .ok (document.types.mapValues TypeEntry.toObjectType)

end SchemaDocument

end QueryTree
