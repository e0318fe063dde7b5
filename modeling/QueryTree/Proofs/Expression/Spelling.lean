import QueryTree.Proofs.Expression.Decoding

/-! The spellings of an expression. A node may be written as an object or an array, with more fields
than it needs and its words in more than one way. What was read from any of these spellings is
written back with no more brackets than the spelling had.
-/

namespace QueryTree

namespace Expression

open Json (height itemsHeight fieldsHeight)

/-- How deep the deepest of the arguments nests. -/
def Arguments.height : Arguments → Nat
  | .named fields => fieldsHeight fields
  | .listed items => itemsHeight items

theorem Arguments.height_le_of_get? {arguments : Arguments} {position : Nat} {name : String}
    {value : Json} (found : arguments.get? position name = some value)
    : value.height ≤ arguments.height := by
  cases arguments with
  | named fields =>
      obtain ⟨field, hit, rfl⟩ := Option.map_eq_some_iff.mp found
      exact Json.fieldsHeight_le_iff.mp (Nat.le_refl _) _ (List.mem_of_find?_eq_some hit)
  | listed items => exact Json.itemsHeight_le_iff.mp (Nat.le_refl _) _ (List.mem_of_getElem? found)

/-- What a query that may be missing is read from: nothing, `null`, or a spelling of it. -/
inductive QuerySpelling (value : Option Json) : Option Expression → Prop
  | missing : QuerySpelling value none
  | present {inner query} (found : value = some inner) (below : decode? true inner = some query)
    : QuerySpelling value (some query)

/-- What the arguments of a node say of the expressions below it. -/
inductive NodeSpelling (arguments : Arguments) : Expression → Prop
  | boolean {combiner members items}
    (found : arguments.get? 1 "subExpressions" = some (.array items))
    (each : List.Forall₂ (fun item member => decode? true item = some member) items members)
    : NodeSpelling arguments (.boolean combiner members)
  | property {id operator operand} : NodeSpelling arguments (.property id operator operand)
  | relationship {negated id query}
    (below : QuerySpelling (arguments.get? 1 "relationshipQuery") query)
    : NodeSpelling arguments (.relationship negated id query)
  | name {operator operand} : NodeSpelling arguments (.name operator operand)
  | insight {negated badge} : NodeSpelling arguments (.insight negated badge)
  | typeSwitch {arms items} (found : arguments.get? 0 "typeQueries" = some (.array items))
    (each : List.Forall₂ (fun item arm => decodeArm? item = some arm) items arms)
    : NodeSpelling arguments (.typeSwitch arms)

/-- A node that was read is spelled by its arguments, kind by kind. -/
theorem nodeSpelling_of_decodeNode? {kind : ExpressionKind} {arguments : Arguments}
    {expression : Expression} (read : decodeNode? kind arguments = some expression)
    : NodeSpelling arguments expression := by
  cases kind with
  | boolean =>
      rw [decodeNode?] at read
      split at read
      · split at read
        · rename_i found
          obtain ⟨members, each, rfl⟩ := Option.map_eq_some_iff.mp read
          exact .boolean found (decodeMembers?_eq_some.mp each)
        · cases read
      · cases read
  | relationship | negatedRelationship =>
      rw [decodeNode?] at read
      split at read
      · simp only at read
        split at read
        · exact Option.some.inj read ▸ .relationship .missing
        · exact Option.some.inj read ▸ .relationship .missing
        · rename_i found
          obtain ⟨query, below, rfl⟩ := Option.map_eq_some_iff.mp read
          exact .relationship (.present found below)
      · cases read
  | property =>
      rw [decodeNode?] at read
      split at read
      · exact Option.some.inj read ▸ .property
      · cases read
  | name =>
      rw [decodeNode?] at read
      split at read
      · exact Option.some.inj read ▸ .name
      · cases read
  | hasInsight | negatedHasInsight =>
      rw [decodeNode?] at read
      split at read
      · exact Option.some.inj read ▸ .insight
      · cases read
  | typeSwitch =>
      rw [decodeNode?] at read
      split at read
      · split at read
        · rename_i found
          obtain ⟨arms, each, rfl⟩ := Option.map_eq_some_iff.mp read
          exact .typeSwitch found (decodeArms?_eq_some.mp each)
        · cases read
      · cases read

/-- A value that was read is a node around its arguments, written by name or by position. -/
theorem exists_spelling_of_decode? {byPosition : Bool} {value : Json} {expression : Expression}
    (read : decode? byPosition value = some expression)
    : ∃ arguments : Arguments,
        arguments.height < value.height ∧ NodeSpelling arguments expression := by
  cases value with
  | object fields =>
      rw [decode?] at read
      split at read
      · exact ⟨.named fields, Nat.lt_succ_self _, nodeSpelling_of_decodeNode? read⟩
      · cases read
  | array items =>
      cases items with
      | nil => simp [decode?] at read
      | cons tag items =>
          rw [decode?] at read
          split at read
          · refine ⟨.listed items, ?_, nodeSpelling_of_decodeNode? read⟩
            simp only [Arguments.height, height, itemsHeight]
            omega
          · cases read
  | null | bool | number | string => simp [decode?] at read

theorem exists_spelling_of_decodeArm? {value : Json} {selector : String}
    {query : Option Expression} (read : decodeArm? value = some (.arm selector query))
    : ∃ arguments : Arguments,
        arguments.height < value.height ∧ QuerySpelling (arguments.get? 1 "query") query := by
  have spelled {arguments : Arguments}
      (read : decodeArmArguments? arguments = some (.arm selector query))
      : QuerySpelling (arguments.get? 1 "query") query := by
    rw [decodeArmArguments?] at read
    split at read
    · split at read
      · cases read
        exact .missing
      · cases read
        exact .missing
      · rename_i found
        obtain ⟨inner, below, same⟩ := Option.map_eq_some_iff.mp read
        cases same
        exact .present found below
    · cases read
  cases value with
  | object fields =>
      rw [decodeArm?] at read
      exact ⟨.named fields, Nat.lt_succ_self _, spelled read⟩
  | array items =>
      rw [decodeArm?] at read
      exact ⟨.listed items, Nat.lt_succ_self _, spelled read⟩
  | null | bool | number | string => simp [decodeArm?] at read

/-- Written back, a query needs no more brackets than its spelling had. -/
theorem queryBrackets_le {value : Option Json} {query : Option Expression} {bound : Nat}
    (spelled : QuerySpelling value query)
    (fits : ∀ inner, value = some inner → inner.height ≤ bound)
    (below
      : ∀ inner, query = some inner → ∀ value, decode? true value = some inner →
          inner.brackets ≤ value.height)
    : queryBrackets query ≤ bound := by
  cases spelled with
  | missing => exact Nat.zero_le bound
  | present found read => exact Nat.le_trans (below _ rfl _ read) (fits _ found)

theorem memberBrackets_le_itemsHeight {items : List Json} {members : List Expression}
    (each : List.Forall₂ (fun item member => decode? true item = some member) items members)
    (below
      : ∀ member ∈ members, ∀ value, decode? true value = some member →
          member.brackets ≤ value.height)
    : memberBrackets members ≤ itemsHeight items := by
  refine memberBrackets_le_iff.mpr fun member present => ?_
  obtain ⟨item, there, read⟩ := exists_of_mem_forall₂ each present
  exact Nat.le_trans (below member present item read)
    (Json.itemsHeight_le_iff.mp (Nat.le_refl _) item there)

theorem armsBrackets_le_itemsHeight {items : List Json} {arms : List TypeArm}
    (each : List.Forall₂ (fun item arm => decodeArm? item = some arm) items arms)
    (below
      : ∀ selector inner, TypeArm.arm selector (some inner) ∈ arms → ∀ value,
          decode? true value = some inner → inner.brackets ≤ value.height)
    : armsBrackets arms ≤ itemsHeight items := by
  refine armsBrackets_le_iff.mpr fun ⟨selector, query⟩ present => ?_
  obtain ⟨item, there, read⟩ := exists_of_mem_forall₂ each present
  obtain ⟨arguments, smaller, spelled⟩ := exists_spelling_of_decodeArm? read
  have inside : queryBrackets query ≤ arguments.height :=
    queryBrackets_le spelled (fun _ found => Arguments.height_le_of_get? found)
      fun inner same => below selector inner (same ▸ present)
  have whole := Json.itemsHeight_le_iff.mp (Nat.le_refl _) item there
  rw [armBrackets]
  omega

/-- An expression that was read is written back with no more brackets than it was spelled with, by
induction on the expression.
-/
theorem brackets_le_of_decode? {expression : Expression} {byPosition : Bool} {value : Json}
    (read : decode? byPosition value = some expression)
    : expression.brackets ≤ value.height := by
  induction expression generalizing byPosition value with
  | boolean combiner members ih =>
      obtain ⟨arguments, smaller, spelled⟩ := exists_spelling_of_decode? read
      cases spelled with
      | boolean found each =>
          have items := Arguments.height_le_of_get? found
          have below := memberBrackets_le_itemsHeight each fun member present _ read =>
            ih member present read
          rw [height] at items
          rw [brackets]
          omega
  | relationship negated id query ih =>
      obtain ⟨arguments, smaller, spelled⟩ := exists_spelling_of_decode? read
      cases spelled with
      | relationship spelled =>
          have below := queryBrackets_le spelled (fun _ found => Arguments.height_le_of_get? found)
            fun inner same _ read => ih inner same read
          rw [brackets]
          omega
  | typeSwitch arms ih =>
      obtain ⟨arguments, smaller, spelled⟩ := exists_spelling_of_decode? read
      cases spelled with
      | typeSwitch found each =>
          have items := Arguments.height_le_of_get? found
          have below := armsBrackets_le_itemsHeight each fun selector inner present _ read =>
            ih selector inner present read
          rw [height] at items
          rw [brackets]
          omega
  -- Every other node is written as one object, and it was read from an object or an array.
  | property | name | insight =>
      obtain ⟨arguments, smaller, spelled⟩ := exists_spelling_of_decode? read
      rw [brackets]
      omega

theorem brackets_le_of_ofJson {expression : Expression} {value : Json}
    (read : ofJson value = .ok expression)
    : expression.brackets ≤ value.height := by
  unfold ofJson at read
  split at read
  · cases read
  · split at read
    · rename_i decoded
      obtain rfl := Except.ok.inj read
      exact brackets_le_of_decode? decoded
    · cases read

end Expression

end QueryTree
