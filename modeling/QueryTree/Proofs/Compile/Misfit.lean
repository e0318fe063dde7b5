import QueryTree.Proofs.Compile.Node
import QueryTree.Proofs.Compile.Place

/-! Nodes that do not fit their types. The tests without members or queries fail just as their nodes
do not fit, and no place is refused in two ways.
-/

namespace QueryTree

-----------------------------------------------------------------------------------------
-- Operators and operands
-----------------------------------------------------------------------------------------

theorem DataType.findOperator_eq_ok {dataType : DataType} {operator : Operator}
    {entry : OperatorEntry}
    : dataType.findOperator operator = .ok entry
      ↔ entry ∈ dataType.operators ∧ entry.operator = operator := by
  have once
      : ∀ listed ∈ dataType.operators,
          dataType.operators.find? (fun other => other.operator = listed.operator)
          = some listed := by
    cases dataType <;> decide
  unfold findOperator
  constructor
  · intro supported
    split at supported
    · rename_i found hit
      obtain rfl := Except.ok.inj supported
      exact ⟨List.mem_of_find?_eq_some hit, by simpa using List.find?_some hit⟩
    · cases supported
  · rintro ⟨listed, rfl⟩
    rw [once entry listed]

theorem DataType.findOperator_eq_error {dataType : DataType} {operator : Operator}
    {fault : CompileFault}
    : dataType.findOperator operator = .error fault
      ↔ (∀ entry ∈ dataType.operators, entry.operator ≠ operator)
        ∧ .unsupportedOperator operator dataType = fault := by
  unfold findOperator
  cases missing : dataType.operators.find? fun entry => entry.operator = operator with
  | some entry =>
      have same : entry.operator = operator := by simpa using List.find?_some missing
      simpa using fun absent => absurd same (absent entry (List.mem_of_find?_eq_some missing))
  | none => simpa using fun _ => by simpa using missing

/-- No operator wants a list for an operand. -/
theorem DataType.operandTypeFor_ne_stringList (dataType : DataType)
    : ∀ entry ∈ dataType.operators, entry.operandTypeFor dataType ≠ .stringList := by
  cases dataType <;> decide

theorem Literal.read_eq_error {dataType : DataType} (scalar : dataType ≠ .stringList)
    {raw : String} {stereotype : Option Stereotype} {fault : CompileFault}
    : read dataType raw stereotype = .error fault
      ↔ ¬Valid raw stereotype dataType ∧ .invalidLiteral dataType raw = fault := by
  cases dataType with
  | number =>
      unfold read Valid
      cases isNumber (stereotype ≠ some .timeSpan) raw.toList <;> simp
  | boolean =>
      by_cases yes : raw = "true"
      · simp [read, Valid, yes]
      · by_cases no : raw = "false"
        · simp [read, Valid, no]
        · simp [read, Valid, yes, no]
  | string => simp [read, Valid]
  | time => simp [read, Valid]
  | stringList => exact absurd rfl scalar

theorem DataType.misfit_iff_of_missing {dataType : DataType} {operator : Operator}
    {operand : String} {fault : CompileFault}
    (missing : ∀ entry ∈ dataType.operators, entry.operator ≠ operator)
    : dataType.Misfit operator operand fault
      ↔ .unsupportedOperator operator dataType = fault := by
  constructor
  · intro misfit
    cases misfit with
    | unsupported => rfl
    | unreadable listed called => exact absurd called (missing _ listed)
  · rintro rfl
    exact .unsupported missing

/-- An operator stands in a table once, so its entry says what the operand must be. -/
theorem DataType.misfit_iff_of_supported {dataType : DataType} {operator : Operator}
    {operand : String} {fault : CompileFault} {entry : OperatorEntry}
    (supported : dataType.findOperator operator = .ok entry)
    : dataType.Misfit operator operand fault
      ↔ ¬Literal.Valid operand entry.stereotype (entry.operandTypeFor dataType)
        ∧ .invalidLiteral (entry.operandTypeFor dataType) operand = fault := by
  obtain ⟨listed, called⟩ := findOperator_eq_ok.mp supported
  constructor
  · intro misfit
    cases misfit with
    | unsupported missing => exact absurd called (missing _ listed)
    | unreadable alsoListed alsoCalled invalid =>
        have again := findOperator_eq_ok.mpr ⟨alsoListed, alsoCalled⟩
        obtain rfl := Except.ok.inj (supported.symm.trans again)
        exact ⟨invalid, rfl⟩
  · rintro ⟨invalid, rfl⟩
    exact .unreadable listed called invalid

/-- A comparison fails just as the data type, the operator and the operand do not fit. -/
theorem DataType.compare_eq_error {dataType : DataType} {value : Term} {operator : Operator}
    {operand : String} {fault : CompileFault}
    : dataType.compare value operator operand = .error fault
      ↔ dataType.Misfit operator operand fault := by
  unfold compare
  cases supported : dataType.findOperator operator with
  | error other =>
      obtain ⟨missing, rfl⟩ := findOperator_eq_error.mp supported
      rw [misfit_iff_of_missing missing]
      simp
  | ok entry =>
      have listed := (findOperator_eq_ok.mp supported).1
      have scalar := operandTypeFor_ne_stringList dataType entry listed
      rw [misfit_iff_of_supported supported, ← Literal.read_eq_error scalar]
      cases outcome : Literal.read (entry.operandTypeFor dataType) operand entry.stereotype <;>
        simp [outcome]

-----------------------------------------------------------------------------------------
-- Members that are not there
-----------------------------------------------------------------------------------------

theorem ObjectType.property?_eq_none {type : ObjectType} {id : String}
    : type.property? id = none ↔ ∀ property ∈ type.properties, property.id ≠ id := by
  simp [property?]

theorem ObjectType.relationship?_eq_none {type : ObjectType} {id : String}
    : type.relationship? id = none
      ↔ ∀ relationship ∈ type.relationships, relationship.id ≠ id := by
  simp [relationship?]

theorem ObjectType.hasInsights_eq_false {type : ObjectType}
    : type.hasInsights = false
      ↔ ∀ relationship,
          type.relationship? insightsId = some relationship
          → relationship.target ∉ insightTargets := by
  unfold hasInsights
  cases type.relationship? insightsId <;> simp

-----------------------------------------------------------------------------------------
-- The tests that have no members or queries fail just as their nodes do not fit
-----------------------------------------------------------------------------------------

namespace Compiler

section tests

variable {schema : Schema} {type : ObjectType} {subject : Term} {fault : CompileFault}

theorem propertyTest_eq_error {id : String} {operator : Operator} {operand : String}
    : propertyTest type subject id operator operand = .error fault
      ↔ Expression.Misfit schema type (.property id operator operand) fault := by
  unfold propertyTest
  cases found : type.property? id with
  | none =>
      simp only [Except.error.injEq]
      constructor
      · rintro rfl
        exact .unknownProperty (ObjectType.property?_eq_none.mp found)
      · intro misfit
        cases misfit with
        | unknownProperty => rfl
        | property again => cases found.symm.trans again
  | some property =>
      simp only [DataType.compare_eq_error]
      constructor
      · exact .property found
      · intro misfit
        cases misfit with
        | unknownProperty absent =>
            cases found.symm.trans (ObjectType.property?_eq_none.mpr absent)
        | property again wrong =>
            obtain rfl := Option.some.inj (found.symm.trans again)
            exact wrong

theorem nameTest_eq_error {operator : Operator} {operand : String}
    : nameTest type subject operator operand = .error fault
      ↔ Expression.Misfit schema type (.name operator operand) fault := by
  unfold nameTest
  cases named : type.naming with
  | none =>
      simp only [Except.error.injEq]
      constructor
      · rintro rfl
        exact .unnamed named
      · intro misfit
        cases misfit with
        | unnamed => rfl
        | nameOperator again => exact absurd named again
  | some naming =>
      have present : type.naming ≠ none := by simp [named]
      simp only [DataType.compare_eq_error]
      constructor
      · intro misfit
        cases misfit with
        | unsupported missing => exact .nameOperator present missing
        | unreadable listed called invalid =>
            -- Every operator of strings wants a string, and every operand is one.
            have readable
                : ∀ entry ∈ DataType.string.operators,
                    entry.operandTypeFor DataType.string = DataType.string := by
              decide
            rw [readable _ listed] at invalid
            exact absurd trivial invalid
      · intro misfit
        cases misfit with
        | unnamed absent => exact absurd absent present
        | nameOperator _ missing => exact .unsupported missing

theorem insightTest_eq_error {negated : Bool} {badge : String}
    : insightTest type subject badge = .error fault
      ↔ Expression.Misfit schema type (.insight negated badge) fault := by
  cases capable : type.hasInsights with
  | false =>
      unfold insightTest
      simp only [capable, Bool.false_eq_true, ↓reduceIte, Except.error.injEq]
      constructor
      · rintro rfl
        exact .withoutInsights (ObjectType.hasInsights_eq_false.mp capable)
      · intro misfit
        cases misfit
        rfl
  | true =>
      rw [insightTest_eq_ok.mpr ⟨capable, rfl⟩]
      constructor
      · intro failed
        cases failed
      · intro misfit
        cases misfit with
        | withoutInsights incapable =>
            cases capable.symm.trans (ObjectType.hasInsights_eq_false.mpr incapable)

end tests

end Compiler

-----------------------------------------------------------------------------------------
-- No node and no place has two faults
-----------------------------------------------------------------------------------------

/-- A relationship that is there fits unless its query is about an unknown type. -/
theorem Expression.Misfit.of_found {schema : Schema} {type : ObjectType} {negated : Bool}
    {id : String} {query : Option Expression} {fault : CompileFault} {declared : Relationship}
    (misfit : Misfit schema type (.relationship negated id query) fault)
    (found : type.relationship? id = some declared)
    : query ≠ none ∧ schema.get? declared.target = none := by
  cases misfit with
  | unknownRelationship absent =>
      cases found.symm.trans (ObjectType.relationship?_eq_none.mpr absent)
  | unknownTarget again absent =>
      obtain rfl := Option.some.inj (found.symm.trans again)
      exact ⟨nofun, absent⟩

/-- A node does not fit in one way only. -/
theorem Expression.Misfit.unique {schema : Schema} {type : ObjectType} {expression : Expression}
    {fault other : CompileFault} (first : expression.Misfit schema type fault)
    (second : expression.Misfit schema type other)
    : other = fault := by
  cases expression with
  | boolean combiner members =>
      cases first
      cases second
      rfl
  | property id operator operand =>
      have failed : Compiler.propertyTest type (.name "") id operator operand = .error fault :=
        Compiler.propertyTest_eq_error.mpr first
      exact Except.error.inj ((Compiler.propertyTest_eq_error.mpr second).symm.trans failed)
  | relationship negated id query =>
      cases first with
      | unknownRelationship absent =>
          cases second with
          | unknownRelationship => rfl
          | unknownTarget found =>
              cases found.symm.trans (ObjectType.relationship?_eq_none.mpr absent)
      | unknownTarget found absent =>
          cases second with
          | unknownRelationship missing =>
              cases found.symm.trans (ObjectType.relationship?_eq_none.mpr missing)
          | unknownTarget again _ =>
              obtain rfl := Option.some.inj (found.symm.trans again)
              rfl
  | name operator operand =>
      have failed : Compiler.nameTest type (.name "") operator operand = .error fault :=
        Compiler.nameTest_eq_error.mpr first
      exact Except.error.inj ((Compiler.nameTest_eq_error.mpr second).symm.trans failed)
  | insight negated badge =>
      cases first
      cases second
      rfl
  | typeSwitch arms =>
      cases first
      cases second
      rfl

/-- A place is refused in one way only. -/
theorem Place.Inadmissible.unique {schema : Schema} {maxDepth : Nat} {place : Place}
    {fault other : CompileFault} (first : place.Inadmissible schema maxDepth fault)
    (second : place.Inadmissible schema maxDepth other)
    : other = fault := by
  cases first with
  | tooDeep deep =>
      cases second with
      | tooDeep => rfl
      | misfit shallow => exact absurd deep (Nat.not_lt.mpr shallow)
  | misfit shallow wrong =>
      cases second with
      | tooDeep deep => exact absurd deep (Nat.not_lt.mpr shallow)
      | misfit _ again => exact wrong.unique again
  | unknownSelector =>
      cases second
      rfl

end QueryTree
