import QueryTree.Json.Reader
import QueryTree.Vocabulary

/-! The columns of a query's result. -/

namespace QueryTree

/-- What a result column holds. -/
inductive ColumnType where
  | number
  | string
  | boolean
  | dataModelObject
  | insights
  | riskTriggerInsights
deriving DecidableEq

namespace ColumnType

/-- The token of a column type. -/
def token : ColumnType → String
  | .number => "number"
  | .string => "string"
  | .boolean => "boolean"
  | .dataModelObject => "dataModelObject"
  | .insights => "insights"
  | .riskTriggerInsights => "riskTriggerInsights"

/-- Whether results can be grouped by a column of this type. -/
def isGroupable : ColumnType → Bool
  | .number | .string | .boolean => true
  | .dataModelObject | .insights | .riskTriggerInsights => false

end ColumnType

instance : Vocabulary ColumnType where
  noun := "column type"
  all := [.number, .string, .boolean, .dataModelObject, .insights, .riskTriggerInsights]
  token := ColumnType.token

/-- A column of a result. -/
structure ResultColumn where
  key : String
  type : ColumnType
deriving DecidableEq

namespace ResultColumn

open Json (Reader RecordShape)

/-- The shape of a column. -/
def shape : RecordShape ResultColumn where
  blank := ⟨"", .number⟩
  fields := [
    .mandatory "key" Reader.text fun key column => { column with key },
    .mandatory "type" Vocabulary.read fun type column => { column with type }]
  strict := false

/-- A column as a JSON value. -/
def toJson (column : ResultColumn) : Json :=
  .object [("key", .string column.key), ("type", .string column.type.token)]

end ResultColumn

end QueryTree
