import QueryTree.Expression.Default
import QueryTree.Proofs.Compile.Verdict
import QueryTree.Proofs.Schema.Plain
import QueryTree.Proofs.Schema.Subtypes

/-! Whether the expressions that a type is started with compile. All of them do but those that
compare a property: the operand that such a test starts with is taken from what the document lists
for the property, and need not be a literal of its type.
-/

namespace QueryTree

/-- The verdict of a fault, or of there being none. -/
def verdictOf : Option CompileFault → Except CompileFault Unit
  | none => .ok ()
  | some fault => .error fault

section literals

def numberFault? (operand : String) : Option CompileFault :=
  if Literal.isNumber true operand.toList then none else some (.invalidLiteral .number operand)

def truthFault? (operand : String) : Option CompileFault :=
  if operand = "true" ∨ operand = "false" then none else some (.invalidLiteral .boolean operand)

theorem verdict_read_number (operand : String)
    : verdict (Literal.read .number operand none) = verdictOf (numberFault? operand) := by
  by_cases literal : Literal.isNumber true operand.toList = true
  · simp [Literal.read, numberFault?, literal, verdictOf, verdict, Except.map]
  · simp [Literal.read, numberFault?, literal, verdictOf, verdict, Except.map]

theorem verdict_read_truth (operand : String)
    : verdict (Literal.read .boolean operand none) = verdictOf (truthFault? operand) := by
  by_cases yes : operand = "true"
  · simp [Literal.read, truthFault?, yes, verdictOf, verdict, Except.map]
  · by_cases no : operand = "false"
    · simp [Literal.read, truthFault?, no, verdictOf, verdict, Except.map]
    · simp [Literal.read, truthFault?, yes, no, verdictOf, verdict, Except.map]

end literals

namespace SchemaDocument

/-- The fault that a test of the property starts with. A number starts at its first listed value, or
at zero. A truth value starts at its first listed value, and at the empty text if the document lists
its values but there are none.
-/
def PropertyEntry.defaultFault? (entry : PropertyEntry) : Option CompileFault :=
  match entry.dataType, entry.enumValues with
  | .number, some (first :: _) => numberFault? first
  | .boolean, some listed => truthFault? (listed.headD "")
  | _, _ => none

/-- The fault that a test of the type's first property starts with. -/
def TypeEntry.defaultFault? (entry : TypeEntry) : Option CompileFault :=
  entry.properties.head?.bind PropertyEntry.defaultFault?

/-- The fault that the type starts with in an expression of a kind; only a test of a property, by
itself or in a group, has one.
-/
def TypeEntry.defaultFaultOfKind? (entry : TypeEntry) : ExpressionKind → Option CompileFault
  | .boolean | .property => entry.defaultFault?
  | .relationship | .negatedRelationship | .name | .hasInsight | .negatedHasInsight
  | .typeSwitch => none

end SchemaDocument

/-- Comparing by the first operator of a data type fails just where the operand is no literal. -/
theorem DataType.verdict_compare_first {dataType : DataType} {entry : OperatorEntry}
    (first : dataType.operators.head? = some entry) (value : Term) (operand : String)
    : verdict (dataType.compare value entry.operator operand)
      = verdict (Literal.read (entry.operandTypeFor dataType) operand entry.stereotype) := by
  have supported : dataType.findOperator entry.operator = .ok entry := by
    unfold findOperator
    cases dataType <;> cases first <;> rfl
  unfold compare
  rw [supported]
  dsimp only
  cases Literal.read (entry.operandTypeFor dataType) operand entry.stereotype <;> rfl

namespace Expression

open SchemaDocument (PropertyEntry TypeEntry)

/-- The operand that a test of a described property starts with is read as a literal, or refused, by
the type of the property and by what the document lists for it.
-/
theorem verdict_read_default {described : PropertyEntry} {entry : OperatorEntry}
    (first : described.dataType.operators.head? = some entry)
    : verdict
        (Literal.read (entry.operandTypeFor described.dataType)
          ((described.toProperty.enumValues.bind List.head?).getD (placeholder described.dataType))
          entry.stereotype)
      = verdictOf described.defaultFault? := by
  obtain ⟨id, displayName, description, dataType, enumValues, openEnum, unorderedEnum⟩ := described
  cases dataType with
  | number =>
      cases first
      rcases enumValues with _ | _ | ⟨listed, others⟩
      · exact verdict_read_number "0"
      · exact verdict_read_number "0"
      · exact verdict_read_number listed
  | boolean =>
      cases first
      rcases enumValues with _ | _ | ⟨listed, others⟩
      · exact verdict_read_truth "true"
      · exact verdict_read_truth ""
      · exact verdict_read_truth listed
  | string | time | stringList =>
      cases first
      rfl

theorem defaultProperty?_eq_some {type : ObjectType} {expression : Expression}
    : defaultProperty? type = some expression
      ↔ ∃ first entry,
          type.properties.head? = some first
          ∧ first.dataType.operators.head? = some entry
          ∧ .property first.id entry.operator
              ((first.enumValues.bind List.head?).getD (placeholder first.dataType))
            = expression := by
  unfold defaultProperty?
  cases type.properties.head? with
  | none => simp
  | some first => cases table : first.dataType.operators.head? <;> simp [table]

/-- Every data type has an operator, so only a type without properties has no test of one. -/
theorem defaultFault?_of_not_offered {entry : TypeEntry}
    (absent : defaultProperty? entry.toObjectType = none)
    : entry.defaultFault? = none := by
  cases head : entry.properties.head? with
  | none => rw [TypeEntry.defaultFault?, head, Option.bind_none]
  | some described =>
      obtain ⟨operation, table⟩
          : ∃ operation, described.toProperty.dataType.operators.head? = some operation := by
        cases described.toProperty.dataType <;> exact ⟨_, rfl⟩
      have start : entry.toObjectType.properties.head? = some described.toProperty := by
        simp [TypeEntry.toObjectType, head]
      have offered := defaultProperty?_eq_some.mpr ⟨_, operation, start, table, rfl⟩
      rw [absent] at offered
      cases offered

section nodes

variable {compiler : Compiler} {type : ObjectType} {expression : Expression} {depth : Nat}

/-- A test of the first property ends as its operand does: the first property is the one that is
found by its name.
-/
theorem verdict_defaultProperty {entry : TypeEntry}
    (offered : defaultProperty? entry.toObjectType = some expression) (subject : Term)
    (shallow : depth ≤ compiler.maxDepth)
    : verdict (compiler.node entry.toObjectType subject depth expression)
      = verdictOf entry.defaultFault? := by
  obtain ⟨first, operation, head, table, rfl⟩ := defaultProperty?_eq_some.mp offered
  have found : entry.toObjectType.property? first.id = some first := by
    obtain ⟨rest, same⟩ := List.head?_eq_some_iff.mp head
    simp [ObjectType.property?, same]
  obtain ⟨described, start, rfl⟩
      : ∃ described, entry.properties.head? = some described ∧ described.toProperty = first := by
    simpa [TypeEntry.toObjectType] using head
  have fault : entry.defaultFault? = described.defaultFault? := by
    rw [TypeEntry.defaultFault?, start, Option.bind_some]
  rw [Compiler.node, if_neg (Nat.not_lt.mpr shallow), fault]
  unfold Compiler.propertyTest
  rw [found]
  exact (DataType.verdict_compare_first table _ _).trans (verdict_read_default table)

theorem verdict_defaultRelationship {negated : Bool}
    (offered : defaultRelationship? negated type = some expression) (subject : Term)
    (shallow : depth ≤ compiler.maxDepth)
    : verdict (compiler.node type subject depth expression) = .ok () := by
  obtain ⟨first, head, rfl⟩ := Option.map_eq_some_iff.mp offered
  have found : type.relationship? first.id = some first := by
    obtain ⟨rest, same⟩ := List.head?_eq_some_iff.mp head
    simp [ObjectType.relationship?, same]
  rw [Compiler.node, if_neg (Nat.not_lt.mpr shallow)]
  simp only [found]
  rw [verdict_map, Compiler.relationshipTest]
  rfl

theorem verdict_defaultTypeSwitch {name : String}
    (offered : defaultTypeSwitch? compiler.schema name = some expression) (subject : Term)
    (shallow : depth ≤ compiler.maxDepth)
    : verdict (compiler.node type subject depth expression) = .ok () := by
  obtain ⟨subtype, head, rfl⟩ := Option.map_eq_some_iff.mp offered
  obtain ⟨narrowed, found⟩ := Schema.exists_type_of_mem_subtypes (List.mem_of_head? head)
  have required := Schema.require_eq_ok.mpr found
  rw [Compiler.node, if_neg (Nat.not_lt.mpr shallow), Compiler.arm, required]
  rfl

/-- The best default of a type ends as a test of its first property does; without a property it
compiles.
-/
theorem verdict_bestDefault {entry : TypeEntry} {name : String}
    (offered : bestDefault? compiler.schema name entry.toObjectType = some expression)
    (subject : Term) (shallow : depth ≤ compiler.maxDepth)
    : verdict (compiler.node entry.toObjectType subject depth expression)
      = verdictOf entry.defaultFault? := by
  unfold bestDefault? at offered
  cases tested : defaultProperty? entry.toObjectType with
  | some test =>
      rw [tested] at offered
      obtain rfl := Option.some.inj offered
      exact verdict_defaultProperty tested subject shallow
  | none =>
      rw [defaultFault?_of_not_offered tested]
      rw [tested, Option.none_or] at offered
      rcases Option.or_eq_some_iff.mp offered with related | ⟨_, switched⟩
      · exact verdict_defaultRelationship related subject shallow
      · exact verdict_defaultTypeSwitch switched subject shallow

theorem verdict_group_of_one {combiner : Combiner} (subject : Term)
    (shallow : depth ≤ compiler.maxDepth)
    : verdict (compiler.node type subject depth (.boolean combiner [expression]))
      = verdict (compiler.node type subject (depth + 1) expression) := by
  rw [Compiler.node, if_neg (Nat.not_lt.mpr shallow)]
  cases compiler.node type subject (depth + 1) expression <;> rfl

/-- The default of each kind ends as said, kind by kind. -/
theorem verdict_defaultOfKind {entry : TypeEntry} {name : String} {kind : ExpressionKind}
    (offered : defaultOfKind? compiler.schema name entry.toObjectType kind = some expression)
    (subject : Term) (shallow : depth + 1 ≤ compiler.maxDepth)
    : verdict (compiler.node entry.toObjectType subject depth expression)
      = verdictOf (entry.defaultFaultOfKind? kind) := by
  have here : depth ≤ compiler.maxDepth := Nat.le_of_succ_le shallow
  cases kind with
  | boolean =>
      obtain ⟨best, inner, rfl⟩ := Option.map_eq_some_iff.mp offered
      rw [verdict_group_of_one subject here]
      exact verdict_bestDefault inner subject shallow
  | property => exact verdict_defaultProperty offered subject here
  | relationship | negatedRelationship => exact verdict_defaultRelationship offered subject here
  | typeSwitch => exact verdict_defaultTypeSwitch offered subject here
  | name =>
      obtain ⟨named, same⟩ := Option.ite_none_right_eq_some.mp offered
      obtain ⟨naming, found⟩ := Option.isSome_iff_exists.mp named
      obtain rfl := Option.some.inj same
      rw [Compiler.node, if_neg (Nat.not_lt.mpr here)]
      unfold Compiler.nameTest
      rw [found]
      rfl
  | hasInsight | negatedHasInsight =>
      obtain ⟨insights, same⟩ := Option.ite_none_right_eq_some.mp offered
      obtain rfl := Option.some.inj same
      rw [Compiler.node, if_neg (Nat.not_lt.mpr here)]
      unfold Compiler.insightTest
      rw [if_pos insights]
      rfl

end nodes

end Expression

end QueryTree
