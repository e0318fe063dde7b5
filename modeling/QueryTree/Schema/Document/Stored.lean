import QueryTree.Json.Reader
import QueryTree.Json.Writer
import QueryTree.Schema.Document.Basic

/-! The stored form of schema documents. A document is read straight from its text; fields that it
does not know are refused, and fields that it may leave out have a value then. Written back, a
document leaves out exactly the fields that are absent, so reading what was written gives the same
document.
-/

namespace QueryTree.SchemaDocument

open Json (Reader RecordField RecordShape)

/-- The shape of a property. -/
def PropertyEntry.shape : RecordShape PropertyEntry where
  blank := ⟨"", none, "", .number, none, false, false⟩
  fields := [
    .mandatory "id" Reader.text fun id entry => { entry with id },
    .omittable "displayName" (Reader.optional Reader.text)
      fun displayName entry => { entry with displayName },
    .omittable "description" Reader.text fun description entry => { entry with description },
    .mandatory "dataType" Vocabulary.read fun dataType entry => { entry with dataType },
    .omittable "enumValues" (Reader.optional (Reader.list Reader.text))
      fun enumValues entry => { entry with enumValues },
    .omittable "openEnum" Reader.truth fun openEnum entry => { entry with openEnum },
    .omittable "unorderedEnum" Reader.truth
      fun unorderedEnum entry => { entry with unorderedEnum }]
  strict := true

/-- The shape of a relationship. -/
def RelationshipEntry.shape : RecordShape RelationshipEntry where
  blank := ⟨"", none, "", "", .collection⟩
  fields := [
    .mandatory "id" Reader.text fun id entry => { entry with id },
    .omittable "displayName" (Reader.optional Reader.text)
      fun displayName entry => { entry with displayName },
    .omittable "description" Reader.text fun description entry => { entry with description },
    .mandatory "targetType" Reader.text fun target entry => { entry with target },
    .omittable "cardinality" Vocabulary.read fun cardinality entry => { entry with cardinality }]
  strict := true

/-- The shape of a type. -/
def TypeEntry.shape : RecordShape TypeEntry where
  blank := ⟨[], [], [], none⟩
  fields := [
    .omittable "supertypes" (Reader.list Reader.text)
      fun supertypes entry => { entry with supertypes },
    .omittable "properties" (Reader.list PropertyEntry.shape.read)
      fun properties entry => { entry with properties },
    .omittable "relationships" (Reader.list RelationshipEntry.shape.read)
      fun relationships entry => { entry with relationships },
    .omittable "naming" (Reader.optional Reader.text) fun naming entry => { entry with naming }]
  strict := true

/-- The shape of a document. -/
def shape : RecordShape SchemaDocument where
  blank := ⟨.empty⟩
  fields := [
    .mandatory "types" (Reader.table TypeEntry.shape.read)
      fun types _ => ⟨NameMap.ofList types⟩]
  strict := true

/-- Reads a document from its text. -/
def ofText (text : String) : Except Json.Fault SchemaDocument :=
  Reader.ofText shape.read text

/-- A field that is left out where there is no value. -/
def optionalField (name : String) : Option Json → List (String × Json)
  | none => []
  | some value => [(name, value)]

/-- A property as a JSON value. -/
def PropertyEntry.toJson (entry : PropertyEntry) : Json :=
  .object (
    [("id", .string entry.id)]
      ++ optionalField "displayName" (entry.displayName.map Json.string)
      ++ [("description", .string entry.description),
          ("dataType", .string entry.dataType.token)]
      ++ optionalField "enumValues" (entry.enumValues.map Json.ofTexts)
      ++ [("openEnum", .bool entry.openEnum),
          ("unorderedEnum", .bool entry.unorderedEnum)])

/-- A relationship as a JSON value. -/
def RelationshipEntry.toJson (entry : RelationshipEntry) : Json :=
  .object (
    [("id", .string entry.id)]
      ++ optionalField "displayName" (entry.displayName.map Json.string)
      ++ [("description", .string entry.description),
          ("targetType", .string entry.target),
          ("cardinality", .string entry.cardinality.token)])

/-- A type as a JSON value. -/
def TypeEntry.toJson (entry : TypeEntry) : Json :=
  .object (
    [("supertypes", .ofTexts entry.supertypes),
      ("properties", .array (entry.properties.map PropertyEntry.toJson)),
      ("relationships", .array (entry.relationships.map RelationshipEntry.toJson))]
      ++ optionalField "naming" (entry.naming.map Json.string))

/-- A document as a JSON value. -/
def toJson (document : SchemaDocument) : Json :=
  .object [("types",
    .object (document.types.entries.map fun entry => (entry.1, entry.2.toJson)))]

end QueryTree.SchemaDocument

namespace QueryTree.Schema

/-- Why a text is not a schema document that can be used. -/
inductive ReadFault where
  | unreadable (fault : Json.Fault)
  | refused (fault : SchemaFault)
deriving DecidableEq

/-- Reads a schema from the text of its document. -/
def ofText (text : String) : Except ReadFault Schema :=
  match SchemaDocument.ofText text with
  | .error fault => .error (.unreadable fault)
  | .ok document =>
      match document.toSchema with
      | .error fault => .error (.refused fault)
      | .ok schema => .ok schema

end QueryTree.Schema
