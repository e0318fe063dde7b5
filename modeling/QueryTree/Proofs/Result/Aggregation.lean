import Mathlib.Data.List.Basic
import QueryTree.Proofs.Json.Storing
import QueryTree.Result.Aggregation

/-! Aggregations of results: what is offered for the columns of a result, and how an aggregation is
stored. A function is offered with the columns of the types it applies to, in their order, and the
functions in the order of their declaration. The first of them applies to numbers only, and so do
the two after it, so what a new aggregation starts with depends on whether there is a column of
numbers.
-/

namespace QueryTree

/-- A part of the columns consists of those with a wanted type: they stand in their order, and each
is there as often as it is among the columns.
-/
structure Selects (wanted : ColumnType → Bool) (columns part : List ResultColumn) : Prop where
  ordered : part.Sublist columns
  complete : ∀ column,
    part.count column = if wanted column.type = true then columns.count column else 0

variable {wanted : ColumnType → Bool} {columns part : List ResultColumn}

theorem selects_filter
    : Selects wanted columns (columns.filter fun column => wanted column.type) where
  ordered := List.filter_sublist
  complete column := by
    split
    · rename_i listed
      exact List.count_filter (p := fun column : ResultColumn => wanted column.type) listed
    · rename_i other
      refine List.count_eq_zero.mpr fun present => other ?_
      exact (List.mem_filter.mp present).2

/-- There is only one such part: none of its columns is unwanted, and it leaves none out. -/
theorem Selects.eq_filter (selects : Selects wanted columns part)
    : part = columns.filter fun column => wanted column.type := by
  have only : part.filter (fun column => wanted column.type) = part := by
    refine List.filter_eq_self.mpr fun column present => ?_
    have counted := selects.complete column
    split at counted
    · assumption
    · exact absurd present (List.count_eq_zero.mp counted)
  have within : part.Sublist (columns.filter fun column => wanted column.type) :=
    only ▸ selects.ordered.filter _
  have same : part.Perm (columns.filter fun column => wanted column.type) := by
    refine List.perm_iff_count.mpr fun column => ?_
    rw [selects.complete column, selects_filter.complete column]
  exact within.eq_of_length same.length_eq

theorem selects_iff
    : Selects wanted columns part ↔ part = columns.filter fun column => wanted column.type :=
  ⟨Selects.eq_filter, fun same => same ▸ selects_filter⟩

namespace AggregateFunction

/-- The list of all functions follows their declaration. -/
theorem pairwise_all : all.Pairwise fun one next => one.ctorIdx < next.ctorIdx := by
  decide

theorem mem_all (function : AggregateFunction) : function ∈ all := by
  cases function <;> decide

/-- The first three functions apply to numbers and to nothing else. -/
theorem supports_of_numeric {function : AggregateFunction}
    (numeric : function ∈ [average, max, min]) (type : ColumnType)
    : function.supports type = decide (type = .number) := by
  revert function
  cases type <;> decide

theorem supports_percentCount (type : ColumnType) : percentCount.supports type = true := by
  cases type <;> rfl

end AggregateFunction

namespace AggregationOptions

open AggregateFunction (all)

theorem offer?_eq_some {function : AggregateFunction}
    {entry : AggregateFunction × List ResultColumn}
    : offer? columns function = some entry
      ↔ entry = (function, columns.filter fun column => function.supports column.type)
        ∧ ∃ column ∈ columns, function.supports column.type = true := by
  unfold offer?
  cases chosen : columns.filter fun column => function.supports column.type with
  | nil =>
      have unsupported := List.filter_eq_nil_iff.mp chosen
      simpa using fun _ column present => unsupported column present
  | cons first rest =>
      have present : first ∈ columns.filter fun column => function.supports column.type :=
        chosen ▸ List.mem_cons_self
      have supported := List.mem_filter.mp present
      rw [Option.some.injEq, and_iff_left ⟨first, supported⟩, eq_comm]

/-- The columns of a function are those it applies to, and a function without any has no entry. -/
theorem mem_byFunction {function : AggregateFunction}
    : (function, part) ∈ (ofColumns columns).byFunction
      ↔ part ≠ [] ∧ Selects function.supports columns part := by
  rw [selects_iff]
  constructor
  · intro listed
    obtain ⟨offered, _, offers⟩ := List.mem_filterMap.mp listed
    obtain ⟨same, column, present, supports⟩ := offer?_eq_some.mp offers
    obtain ⟨rfl, rfl⟩ := Prod.mk.inj same
    exact ⟨List.ne_nil_of_mem (List.mem_filter.mpr ⟨present, supports⟩), rfl⟩
  · rintro ⟨nonempty, rfl⟩
    obtain ⟨column, chosen⟩ := List.exists_mem_of_ne_nil _ nonempty
    obtain ⟨present, supports⟩ := List.mem_filter.mp chosen
    exact List.mem_filterMap.mpr
      ⟨function, AggregateFunction.mem_all function,
        offer?_eq_some.mpr ⟨rfl, column, present, supports⟩⟩

/-- The functions offered are those of the list of all functions that apply to some column. -/
theorem available_eq_filter
    : (ofColumns columns).available
      = all.filter fun function => columns.any fun column => function.supports column.type := by
  rw [available, ofColumns, List.map_filterMap, ← List.filterMap_eq_filter]
  refine List.filterMap_congr fun function _ => ?_
  rw [Option.guard]
  split
  · rename_i some
    obtain ⟨column, present, supports⟩ := List.any_eq_true.mp some
    rw [offer?_eq_some.mpr ⟨rfl, column, present, supports⟩]
    rfl
  · rename_i none
    rw [Option.map_eq_none_iff, Option.eq_none_iff_forall_ne_some]
    intro entry offers
    obtain ⟨_, column, present, supports⟩ := offer?_eq_some.mp offers
    exact none (List.any_eq_true.mpr ⟨column, present, supports⟩)

theorem mem_available {function : AggregateFunction}
    : function ∈ (ofColumns columns).available
      ↔ ∃ column ∈ columns, function.supports column.type = true := by
  rw [available_eq_filter, List.mem_filter, List.any_eq_true]
  exact and_iff_right (AggregateFunction.mem_all function)

theorem available_sublist : (ofColumns columns).available.Sublist all :=
  available_eq_filter ▸ List.filter_sublist

/-- The entries are in the order of the declaration of their functions, one for each. -/
theorem pairwise_byFunction
    : (ofColumns columns).byFunction.Pairwise fun one next => one.1.ctorIdx < next.1.ctorIdx := by
  have part : (ofColumns columns).available.Sublist all := available_sublist
  have ordered := AggregateFunction.pairwise_all.sublist part
  rwa [available, List.pairwise_map] at ordered

/-- Whatever is offered is offered for more columns as well. -/
theorem available_append (columns more : List ResultColumn)
    : (ofColumns columns).available.Sublist (ofColumns (columns ++ more)).available := by
  rw [available_eq_filter, available_eq_filter]
  refine List.monotone_filter_right all fun function some => ?_
  rw [List.any_append, some, Bool.true_or]

end AggregationOptions

namespace AggregationColumn

open AggregationOptions (offer? ofColumns)

/-- A function over a column, under the name that is suggested for it. -/
def suggested (function : AggregateFunction) (input : ResultColumn) : AggregationColumn :=
  ⟨function, function.columnName input.key, input.key⟩

/-- A new aggregation is the average of the first column of numbers or, where there is none, how
often each value of the first column occurs.
-/
theorem default?_eq
    : default? columns
      = ((columns.find? fun column => column.type = .number).map (suggested .average)).or
          (columns.head?.map (suggested .percentCount)) := by
  rw [← List.head?_filter, default?, ofColumns, AggregateFunction.all]
  cases numbers : columns.filter fun column => column.type = .number with
  | cons input rest =>
      have offered : offer? columns .average = some (.average, input :: rest) := by
        simp only [offer?, AggregateFunction.supports_of_numeric, numbers, List.mem_cons, true_or]
      rw [List.filterMap_cons_some offered]
      rfl
  | nil =>
      have absent {function : AggregateFunction} (numeric : function ∈ [.average, .max, .min])
          : offer? columns function = none := by
        simp only [offer?, AggregateFunction.supports_of_numeric numeric, numbers]
      rw [List.filterMap_cons_none (absent (by decide)),
        List.filterMap_cons_none (absent (by decide)),
        List.filterMap_cons_none (absent (by decide))]
      cases columns with
      | nil => rfl
      | cons first rest =>
          have offered
              : offer? (first :: rest) .percentCount = some (.percentCount, first :: rest) := by
            simp [offer?, AggregateFunction.supports_percentCount]
          rw [List.filterMap_cons_some offered]
          rfl

theorem default?_eq_none : default? columns = none ↔ columns = [] := by
  rw [default?_eq, Option.or_eq_none_iff, Option.map_eq_none_iff, Option.map_eq_none_iff,
    List.head?_eq_none_iff]
  refine and_iff_right_of_imp fun empty => ?_
  rw [empty, List.find?_nil]

/-- The function of a new aggregation is the first one offered. -/
theorem function_default?
    : (default? columns).map function = (ofColumns columns).available.head? := by
  rw [default?, AggregationOptions.available]
  cases entries : (ofColumns columns).byFunction with
  | nil => rfl
  | cons entry rest =>
      obtain ⟨function, part⟩ := entry
      have listed : (function, part) ∈ (ofColumns columns).byFunction :=
        entries ▸ List.mem_cons_self
      cases part with
      | nil => exact absurd rfl (AggregationOptions.mem_byFunction.mp listed).1
      | cons input inputs => rfl

theorem columnName_default?
    : (default? columns).map columnName = (default? columns).map suggestedName := by
  rw [default?_eq, Option.map_or, Option.map_or]
  simp only [Option.map_map]
  rfl

end AggregationColumn

namespace AggregationOptions

open AggregationColumn (default? suggested)

/-- What the options for a list of columns must be. -/
structure Offers (columns : List ResultColumn) (options : AggregationOptions) : Prop where
  available : ∀ function,
    function ∈ options.available ↔ ∃ column ∈ columns, function.supports column.type = true
  ordered : options.available.Sublist AggregateFunction.all
  distinct : options.available.Nodup
  keys : options.available = options.byFunction.map Prod.fst
  /-- The order of the entries is that of the declaration of the functions. -/
  declared : options.byFunction.Pairwise fun one next => one.1.ctorIdx < next.1.ctorIdx
  supported : ∀ function part,
    (function, part) ∈ options.byFunction
      ↔ part ≠ [] ∧ Selects function.supports columns part
  groupable : Selects ColumnType.isGroupable columns options.groupable

theorem offers_ofColumns (columns : List ResultColumn) : Offers columns (ofColumns columns) where
  available _ := mem_available
  ordered := available_sublist
  distinct := available_sublist.nodup (by decide)
  keys := rfl
  declared := pairwise_byFunction
  supported _ _ := mem_byFunction
  groupable := selects_filter

/-- Functions are offered for columns by their types, with the columns they apply to, and none is
lost where columns are added. A new aggregation starts, unless there is no column at all, with the
average of the first column of numbers or, where there is none, with the share of each value of the
first column. That is the first function offered, under the name that is suggested for it.
-/
theorem offers_and_start_by_type (columns more : List ResultColumn)
    : Offers columns (ofColumns columns)
      ∧ (ofColumns columns).available.Sublist (ofColumns (columns ++ more)).available
      ∧ (default? columns = none ↔ columns = [])
      ∧ default? columns
        = ((columns.find? fun column => column.type = .number).map (suggested .average)).or
            (columns.head?.map (suggested .percentCount))
      ∧ (default? columns).map (·.function) = (ofColumns columns).available.head?
      ∧ (default? columns).map (·.columnName)
        = (default? columns).map AggregationColumn.suggestedName :=
  ⟨offers_ofColumns columns, available_append columns more, AggregationColumn.default?_eq_none,
    AggregationColumn.default?_eq, AggregationColumn.function_default?,
    AggregationColumn.columnName_default?⟩

end AggregationOptions

section stored

open Json (Reader RecordShape)

/-- A column of an aggregation is stored, function by function. -/
theorem AggregationColumn.stores (column : AggregationColumn)
    : shape.Stores column.toJson column := by
  obtain ⟨function, columnName, inputColumn⟩ := column
  have called : Vocabulary.read (Json.string function.token).toDraft = .ok function := by
    cases function <;> rfl
  refine .object (by decide) (.mandatory .string called ?_)
  exact .mandatory .string rfl (.mandatory .string rfl .done)

theorem Aggregation.stores (aggregation : Aggregation)
    : shape.Stores aggregation.toJson aggregation := by
  obtain ⟨groupBy, columns⟩ := aggregation
  refine .object (by decide) ?_
  refine .mandatory (Json.canonical_ofTexts _) (Reader.texts_toDraft _) ?_
  exact .mandatory (RecordShape.canonical_list AggregationColumn.stores _)
    (RecordShape.read_list AggregationColumn.stores _) .done

end stored

end QueryTree
