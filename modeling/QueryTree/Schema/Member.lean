import QueryTree.Code.Term
import QueryTree.Operator.Basic

/-! The members of object types. A property tells how its value is read from a subject. A
relationship tells which subject a query about the related entities reads, and how that query is
wrapped up. Who puts a type together may write the code of its members by functions of their own.
-/

namespace QueryTree

/-- How a value is read from a subject. -/
inductive Accessor where
  /-- As the member of that name. -/
  | member (id : String)
  /-- As a function writes it, given the code of the subject. -/
  | written (write : String → String)

/-- The code that reads the value. -/
def Accessor.read (subject : Term) : Accessor → Term
  | .member id => .member subject id
  | .written write => .name (write subject.code)

/-- A property of an object type. -/
structure Property where
  id : String
  displayName : String
  description : String
  dataType : DataType
  enumValues : Option (List String)
  openEnum : Bool
  unorderedEnum : Bool
  accessor : Accessor

namespace Property

/-- A property with an accessor of its own. -/
def ofAccessor (id : String) (dataType : DataType) (accessor : Accessor) : Property :=
  { id, displayName := id, description := "", dataType, enumValues := none, openEnum := false,
    unorderedEnum := false, accessor }

/-- A property that is read as the member of its name. Truth values enumerate their two values. -/
def member (id : String) (dataType : DataType) : Property :=
  { ofAccessor id dataType (.member id) with
    enumValues := if dataType = .boolean then some ["true", "false"] else none }

/-- The code that reads the property from a subject. -/
def access (property : Property) (subject : Term) : Term :=
  property.accessor.read subject

end Property

/-- What a relationship leads to, and how it is written. -/
inductive RelationshipShape where
  /-- Any number of entities. -/
  | collection
  /-- One entity or none. -/
  | singular
  /-- As functions write it, given the code of the subject. The match may compile the nested query
  for any subject and any number of times, or not at all, and may refuse the subject or the query;
  the test for existence is always written.
  -/
  | written (onMatch : String → (String → Except CompileFault String) → Except CompileFault String)
      (onExistence : String → String)

/-- A relationship of an object type to entities of the type `target`. -/
structure Relationship where
  id : String
  displayName : String
  description : String
  target : String
  shape : RelationshipShape

namespace Relationship

/-- A relationship without any text for readers. -/
def ofShape (id target : String) (shape : RelationshipShape) : Relationship :=
  { id, displayName := id, description := "", target, shape }

/-- The variable bound to each entity of a collection. -/
def elementName : String := "s"

/-- The code that reads the related entities. -/
def related (relationship : Relationship) (subject : Term) : Term :=
  .member subject relationship.id

/-- The code of "some related entity satisfies the nested predicate". The predicate is compiled by
`nested`, for the subject that the relationship chooses.
-/
def matching (relationship : Relationship) (subject : Term)
    (nested : Term → Except CompileFault Term)
    : Except CompileFault Term :=
  match relationship.shape with
  | .collection =>
      (nested (.name elementName)).map (.any (relationship.related subject) elementName)
  | .singular =>
      (nested (relationship.related subject)).map fun predicate =>
        .group (.connect .and [Term.present (relationship.related subject), predicate])
  | .written onMatch _ =>
      (onMatch subject.code fun inner => (nested (.name inner)).map Term.code).map .name

/-- The code of "there is a related entity". -/
def existing (relationship : Relationship) (subject : Term) : Term :=
  match relationship.shape with
  | .collection => .not (.isEmpty (relationship.related subject))
  | .singular => Term.present (.group (relationship.related subject))
  | .written _ onExistence => .name (onExistence subject.code)

end Relationship

end QueryTree
