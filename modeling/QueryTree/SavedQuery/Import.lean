import QueryTree.Expression.Decoding
import QueryTree.SavedQuery.Basic

/-! Importing saved queries. The envelope of a document is read whole before anything in it is
judged; then its type, its version and its rowset are checked, in that order, and only then the
expression is read and compiled. So whatever is wrong with the header is reported before what is
wrong with the expression, and an imported query is known to compile.
-/

namespace QueryTree

/-- Why a document cannot be imported. -/
inductive ImportFault where
  | unreadable (fault : Json.Fault)
  | invalidDocument (documentType : Option String)
  | unsupportedVersion (version : Nat)
  | unknownRowset (rowset : String)
  | refused (fault : CompileFault)
deriving DecidableEq

/-- The wording of an import fault; an unreadable document has none of its own. -/
def ImportFault.message? : ImportFault → Option String
  | .unreadable _ => none
  | .invalidDocument _ => some "invalid query definition file"
  | .unsupportedVersion version =>
      some ("unsupported query definition version " ++ toString version)
  | .unknownRowset rowset => some ("invalid object type '" ++ rowset ++ "'")
  | .refused fault => some fault.message

namespace SavedQuery

open Json (Reader RecordShape)

/-- What the fields of a document say, before any of it is judged. -/
structure Envelope where
  documentType : Option String
  version : Option Nat
  rowset : Option String
  query : Json
  aggregation : Option Aggregation

/-- How deep the value of a field of the envelope may nest: the envelope is one level itself. -/
def fieldNestingLimit : Nat := Json.nestingLimit - 1

/-- The shape of an envelope; fields it does not know are skipped. -/
def Envelope.shape : RecordShape Envelope where
  blank := ⟨none, none, none, .null, none⟩
  fields := [
    .omittable "$type" (Reader.optional Reader.text)
      fun documentType envelope => { envelope with documentType },
    .omittable "$version" (Reader.optional Reader.natural)
      fun version envelope => { envelope with version },
    .omittable "rowset" (Reader.optional Reader.text)
      fun rowset envelope => { envelope with rowset },
    .omittable "query" (Reader.value fieldNestingLimit)
      fun query envelope => { envelope with query },
    .omittable "aggregation" (Reader.optional Aggregation.shape.read)
      fun aggregation envelope => { envelope with aggregation }]
  strict := false

/-- The subject that an imported expression is compiled for, to see whether it compiles. -/
def validationSubject : String := "s"

/-- The fault of a header: of the type, of the version, or of the rowset, in that order. -/
def Envelope.headerFault? (envelope : Envelope) (schema : Schema) : Option ImportFault :=
  if envelope.documentType ≠ some SavedQuery.documentType then
    some (.invalidDocument envelope.documentType)
  else
    match envelope.version.filter fun version => SavedQuery.version < version with
    | some version => some (.unsupportedVersion version)
    | none =>
        let rowset := envelope.rowset.getD ""
        if schema.contains rowset then none else some (.unknownRowset rowset)

/-- The query that an envelope holds. -/
def ofEnvelope (envelope : Envelope) (compiler : Compiler) : Except ImportFault SavedQuery :=
  match envelope.headerFault? compiler.schema with
  | some fault => .error fault
  | none =>
      let rowset := envelope.rowset.getD ""
      match Expression.ofJson envelope.query with
      | .error (.unreadable fault) => .error (.unreadable fault)
      | .error (.refused fault) => .error (.refused fault)
      | .ok query =>
          match compiler.generateForType rowset validationSubject query with
          | .error fault => .error (.refused fault)
          | .ok _ => .ok ⟨none, rowset, query, envelope.aggregation⟩

/-- The query that a document holds. -/
def ofText (compiler : Compiler) (text : String) : Except ImportFault SavedQuery :=
  match Reader.ofText Envelope.shape.read text with
  | .error fault => .error (.unreadable fault)
  | .ok envelope => ofEnvelope envelope compiler

end SavedQuery

end QueryTree
