import QueryTree.Compile.Basic
import QueryTree.Expression.Default
import QueryTree.Expression.Encoding
import QueryTree.Expression.Fingerprint
import QueryTree.Result.Aggregation

/-! Saved queries: an expression together with the type it is asked of and, possibly, an aggregation
of its result. A saved query is exported as one JSON document that starts with the document's type
and version; its description is not exported.
-/

namespace QueryTree

/-- A query as it is kept. -/
structure SavedQuery where
  description : Option String
  objectType : String
  query : Expression
  aggregation : Option Aggregation

/-- A query ready to run: its type, its code and the fingerprint of its expression. -/
structure CompiledQuery where
  objectType : String
  code : String
  fingerprint : String
deriving DecidableEq

namespace SavedQuery

/-- The type of exported documents. -/
def documentType : String := "explorer-schema"

/-- The version that is written, and the newest one that is read. -/
def version : Nat := 1

/-- A saved query as a JSON value. -/
def toJson (saved : SavedQuery) : Json :=
  let header : List (String × Json) :=
    [("$type", .string documentType), ("$version", .ofNat version),
      ("rowset", .string saved.objectType), ("query", saved.query.toJson)]
  .object (
    match saved.aggregation with
    | none => header
    | some aggregation => header ++ [("aggregation", aggregation.toJson)])

/-- The exported document of a saved query. -/
def exportText (saved : SavedQuery) (layout : Json.Layout) : String :=
  saved.toJson.write layout

/-- A new query for a type: its best default, if it has one. -/
def new? (schema : Schema) (objectType : String) : Except CompileFault (Option SavedQuery) :=
  (schema.defaultExpression objectType).map fun query =>
    query.map fun query => ⟨none, objectType, query, none⟩

/-- The code of a saved query for a given subject. -/
def compile (saved : SavedQuery) (compiler : Compiler) (subject : String)
    : Except CompileFault CompiledQuery :=
  (compiler.generateForType saved.objectType subject saved.query).map fun code =>
    ⟨saved.objectType, code, saved.query.fingerprint⟩

end SavedQuery

end QueryTree
