import QueryTree.Result.Column

/-! Aggregating results. Each function applies to columns of certain types. Functions are offered in
their order, each with the columns it applies to, and a new aggregation starts with the first
function offered over its first column.
-/

namespace QueryTree

/-- A function that sums up a column. -/
inductive AggregateFunction where
  | average
  | max
  | min
  | percentCount
  | percentSum
  | sample
  | sum
  | count
deriving DecidableEq

namespace AggregateFunction

/-- The token of a function. -/
def token : AggregateFunction → String
  | .average => "average"
  | .max => "max"
  | .min => "min"
  | .percentCount => "pctcount"
  | .percentSum => "pctsum"
  | .sample => "some"
  | .sum => "sum"
  | .count => "count"

/-- All functions, in the order they are offered. -/
def all : List AggregateFunction :=
  [.average, .max, .min, .percentCount, .percentSum, .sample, .sum, .count]

/-- What a function is called in a list of choices. -/
def displayName : AggregateFunction → String
  | .average => "Average"
  | .max => "Maximum"
  | .min => "Minimum"
  | .percentCount => "% of occurrences"
  | .percentSum => "% of total"
  | .sample => "Sample value"
  | .sum => "Sum"
  | .count => "Count"

/-- The column types that a function applies to. -/
def supportedTypes : AggregateFunction → List ColumnType
  | .average | .max | .min | .percentSum | .sum => [.number]
  | .percentCount | .sample | .count =>
      [.boolean, .dataModelObject, .insights, .riskTriggerInsights, .string, .number]

/-- Whether a function applies to columns of a type. -/
def supports (function : AggregateFunction) (type : ColumnType) : Bool :=
  function.supportedTypes.contains type

/-- What the result of a function over a column is called. -/
def columnName (function : AggregateFunction) (input : String) : String :=
  match function with
  | .average => "Average " ++ input
  | .max => "Maximum of " ++ input
  | .min => "Minimum of " ++ input
  | .percentCount => "% of occurrences of " ++ input
  | .percentSum => "% of " ++ input
  | .sample => "Sample of " ++ input
  | .sum => "Total " ++ input
  | .count => "# of " ++ input

end AggregateFunction

instance : Vocabulary AggregateFunction where
  noun := "aggregate function"
  all := AggregateFunction.all
  token := AggregateFunction.token

/-- A column of an aggregated result: a function over an input column. -/
structure AggregationColumn where
  function : AggregateFunction
  columnName : String
  inputColumn : String
deriving DecidableEq

/-- How a result is grouped and aggregated. -/
structure Aggregation where
  groupBy : List String
  columns : List AggregationColumn
deriving DecidableEq

/-- What can be done with the columns of a result. -/
structure AggregationOptions where
  /-- The functions that apply to some column, each with the columns it applies to. -/
  byFunction : List (AggregateFunction × List ResultColumn)
  /-- The columns to group by. -/
  groupable : List ResultColumn

namespace AggregationOptions

/-- The functions offered, in order. -/
def available (options : AggregationOptions) : List AggregateFunction :=
  options.byFunction.map Prod.fst

/-- A function with the columns it applies to, if there are any. -/
def offer? (columns : List ResultColumn) (function : AggregateFunction)
    : Option (AggregateFunction × List ResultColumn) :=
  match columns.filter fun column => function.supports column.type with
  | [] => none
  | supported => some (function, supported)

/-- The options for the columns of a result. -/
def ofColumns (columns : List ResultColumn) : AggregationOptions :=
  { byFunction := AggregateFunction.all.filterMap (offer? columns)
    groupable := columns.filter fun column => column.type.isGroupable }

end AggregationOptions

namespace AggregationColumn

open Json (Reader RecordShape)

/-- The name suggested for the column. -/
def suggestedName (column : AggregationColumn) : String :=
  column.function.columnName column.inputColumn

/-- The column a new aggregation starts with: the first function over its first column. -/
def default? (columns : List ResultColumn) : Option AggregationColumn :=
  match (AggregationOptions.ofColumns columns).byFunction with
  | (function, input :: _) :: _ => some ⟨function, function.columnName input.key, input.key⟩
  | _ => none

/-- The shape of an aggregation column. -/
def shape : RecordShape AggregationColumn where
  blank := ⟨.average, "", ""⟩
  fields := [
    .mandatory "$type" Vocabulary.read fun function column => { column with function },
    .mandatory "columnName" Reader.text fun columnName column => { column with columnName },
    .mandatory "inputColumn" Reader.text fun inputColumn column => { column with inputColumn }]
  strict := false

/-- An aggregation column as a JSON value. -/
def toJson (column : AggregationColumn) : Json :=
  .object [
    ("$type", .string column.function.token),
    ("columnName", .string column.columnName),
    ("inputColumn", .string column.inputColumn)]

end AggregationColumn

namespace Aggregation

open Json (Reader RecordShape)

/-- The shape of an aggregation. -/
def shape : RecordShape Aggregation where
  blank := ⟨[], []⟩
  fields := [
    .mandatory "groupByFields" (Reader.list Reader.text)
      fun groupBy aggregation => { aggregation with groupBy },
    .mandatory "aggregationColumns" (Reader.list AggregationColumn.shape.read)
      fun columns aggregation => { aggregation with columns }]
  strict := false

/-- An aggregation as a JSON value. -/
def toJson (aggregation : Aggregation) : Json :=
  .object [
    ("groupByFields", .ofTexts aggregation.groupBy),
    ("aggregationColumns", .array (aggregation.columns.map AggregationColumn.toJson))]

end Aggregation

end QueryTree
