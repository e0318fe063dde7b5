import QueryTree.Proofs.Expression.Default
import QueryTree.Proofs.SavedQuery.Import

/-! New queries. What a type is started with compiles, and can be exported and imported, unless the
operand that it starts with is no literal; and then it meets the same fault everywhere.
-/

namespace QueryTree

/-- Compiling an expression of the type called `name` ends with the fault for every subject, or, if
there is none, with code.
-/
def Compiler.EndsIn (compiler : Compiler) (name : String) (expression : Expression)
    : Option CompileFault → Prop
  | none => ∀ subject, ∃ code, compiler.generateForType name subject expression = .ok code
  | some fault => ∀ subject, compiler.generateForType name subject expression = .error fault

namespace Compiler

theorem endsIn_of_verdict {compiler : Compiler} {name : String} {type : ObjectType}
    (known : compiler.schema.get? name = some type) {expression : Expression}
    {fault : Option CompileFault}
    (ends
      : ∀ subject, verdict (compiler.node type subject 1 expression) = verdictOf fault)
    : compiler.EndsIn name expression fault := by
  have required := Schema.require_eq_ok.mpr known
  have generated (subject : String)
      : verdict (compiler.generateForType name subject expression) = verdictOf fault := by
    unfold generateForType generate
    rw [required]
    dsimp only
    rw [verdict_map]
    exact ends _
  cases fault with
  | none =>
      intro subject
      exact verdict_eq_ok.mp (generated subject)
  | some fault =>
      intro subject
      exact verdict_eq_error.mp (generated subject)

end Compiler

/-- No default is more than a type switch of one arm. -/
theorem Expression.brackets_bestDefault_le {schema : Schema} {name : String} {type : ObjectType}
    {expression : Expression} (offered : bestDefault? schema name type = some expression)
    : expression.brackets ≤ 3 := by
  unfold bestDefault? at offered
  rcases Option.or_eq_some_iff.mp offered with member | ⟨_, switched⟩
  · rcases Option.or_eq_some_iff.mp member with tested | ⟨_, related⟩
    · obtain ⟨first, operation, _, _, rfl⟩ := defaultProperty?_eq_some.mp tested
      exact Nat.le_of_ble_eq_true rfl
    · obtain ⟨first, _, rfl⟩ := Option.map_eq_some_iff.mp related
      exact Nat.le_of_ble_eq_true rfl
  · obtain ⟨subtype, _, rfl⟩ := Option.map_eq_some_iff.mp switched
    exact Nat.le_of_ble_eq_true rfl

namespace SchemaDocument

section defaults

variable {document : SchemaDocument} {schema : Schema} {name : String} {entry : TypeEntry}

theorem defaultExpression_eq_ok (valid : document.toSchema = .ok schema)
    (declared : document.types.get? name = some entry) {expression : Expression}
    (offered : schema.defaultExpression name = .ok (some expression))
    : Expression.bestDefault? schema name entry.toObjectType = some expression := by
  unfold Schema.defaultExpression at offered
  rw [Schema.require_eq_ok.mpr (get?_of_toSchema valid declared)] at offered
  exact Except.ok.inj offered

theorem defaultExpressionOfKind_eq_ok (valid : document.toSchema = .ok schema)
    (declared : document.types.get? name = some entry) {kind : ExpressionKind}
    {expression : Expression}
    (offered : schema.defaultExpressionOfKind name kind = .ok (some expression))
    : Expression.defaultOfKind? schema name entry.toObjectType kind = some expression := by
  unfold Schema.defaultExpressionOfKind at offered
  rw [Schema.require_eq_ok.mpr (get?_of_toSchema valid declared)] at offered
  exact Except.ok.inj offered

/-- A type is started with expressions that compile for every subject, and with a new query that is
imported back from its export in either layout, if the operand of its first property is a literal;
otherwise whatever tests that property meets the fault of the operand, for every subject and when
the new query is imported.
-/
theorem defaults_compile_and_reload (valid : document.toSchema = .ok schema)
    (declared : document.types.get? name = some entry)
    : (∀ expression,
        schema.defaultExpression name = .ok (some expression)
        → Compiler.EndsIn ⟨schema, defaultMaxDepth⟩ name expression entry.defaultFault?)
      ∧ (∀ kind expression,
          schema.defaultExpressionOfKind name kind = .ok (some expression)
          → Compiler.EndsIn ⟨schema, defaultMaxDepth⟩ name expression
              (entry.defaultFaultOfKind? kind))
      ∧ ∀ saved,
          SavedQuery.new? schema name = .ok (some saved)
          → ∀ layout,
              SavedQuery.ofText ⟨schema, defaultMaxDepth⟩ (saved.exportText layout)
              = match entry.defaultFault? with
                | none => .ok saved
                | some fault => .error (.refused fault) := by
  have known := get?_of_toSchema valid declared
  have room : 1 + 1 ≤ defaultMaxDepth := by decide
  have best {expression : Expression}
      (offered : schema.defaultExpression name = .ok (some expression))
      : Compiler.EndsIn ⟨schema, defaultMaxDepth⟩ name expression entry.defaultFault? :=
    Compiler.endsIn_of_verdict known fun subject =>
      Expression.verdict_bestDefault (defaultExpression_eq_ok valid declared offered) subject
        (Nat.le_of_succ_le room)
  refine ⟨fun expression offered => best offered, fun kind expression offered => ?_, ?_⟩
  · exact Compiler.endsIn_of_verdict known fun subject =>
      Expression.verdict_defaultOfKind (defaultExpressionOfKind_eq_ok valid declared offered)
        subject room
  · intro saved started layout
    obtain ⟨offer, offered, same⟩ := map_eq_ok.mp started
    obtain ⟨expression, rfl, rfl⟩ := Option.map_eq_some_iff.mp same
    have small := Expression.brackets_bestDefault_le
      (defaultExpression_eq_ok valid declared offered)
    have within : SavedQuery.fits ⟨none, name, expression, none⟩ := by
      rw [SavedQuery.fits, Json.nestingLimit]
      exact Nat.le_trans (Nat.succ_le_succ small) (by decide)
    have ends := best offered
    rw [SavedQuery.ofText_of_fits (NameMap.contains_of_get? known) within]
    cases fault : entry.defaultFault? with
    | none =>
        rw [fault] at ends
        obtain ⟨code, compiled⟩ := ends SavedQuery.validationSubject
        simp only [compiled]
    | some found =>
        rw [fault] at ends
        simp only [ends SavedQuery.validationSubject]

end defaults

/-- A document whose only type has a truth value that it lists no values for. -/
def switches : SchemaDocument where
  types :=
    { entries := [("Switch", ⟨[], [⟨"on", none, "", .boolean, some [], false, false⟩], [], none⟩)]
      ascending := List.pairwise_singleton .. }

def switchesSchema : Schema :=
  switches.types.mapValues TypeEntry.toObjectType

/-- A query for devices is started with a test of their name, which compiles and reloads. A query
for switches compares whether they are on with the empty text, which does neither.
-/
theorem devices_reload_and_switches_are_refused
    : (SavedQuery.new? devicesSchema "Device"
          = .ok (some ⟨none, "Device", .property "name" .equal "", none⟩)
        ∧ (∀ subject, ∃ code,
            Compiler.generateForType ⟨devicesSchema, defaultMaxDepth⟩ "Device" subject
              (.property "name" .equal "")
            = .ok code)
        ∧ ∀ layout,
            SavedQuery.ofText ⟨devicesSchema, defaultMaxDepth⟩
              (SavedQuery.exportText ⟨none, "Device", .property "name" .equal "", none⟩ layout)
            = .ok ⟨none, "Device", .property "name" .equal "", none⟩)
      ∧ SavedQuery.new? switchesSchema "Switch"
          = .ok (some ⟨none, "Switch", .property "on" .equal "", none⟩)
        ∧ (∀ subject,
            Compiler.generateForType ⟨switchesSchema, defaultMaxDepth⟩ "Switch" subject
              (.property "on" .equal "")
            = .error (.invalidLiteral .boolean ""))
        ∧ ∀ layout,
            SavedQuery.ofText ⟨switchesSchema, defaultMaxDepth⟩
              (SavedQuery.exportText ⟨none, "Switch", .property "on" .equal "", none⟩ layout)
            = .error (.refused (.invalidLiteral .boolean "")) := by
  obtain ⟨compiles, _, reloads⟩ :=
    defaults_compile_and_reload devices_toSchema
      (show devices.types.get? "Device" = some deviceEntry from rfl)
  obtain ⟨refused, _, fails⟩ :=
    defaults_compile_and_reload (show switches.toSchema = .ok switchesSchema from rfl)
      (show switches.types.get? "Switch" = some _ from rfl)
  exact ⟨⟨rfl, compiles _ rfl, reloads _ rfl⟩, rfl, refused _ rfl, fails _ rfl⟩

end SchemaDocument

end QueryTree
