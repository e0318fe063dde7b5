import QueryTree.Compile.Basic
import QueryTree.Expression.Default
import QueryTree.Proofs.Json.Order
import QueryTree.Proofs.Schema.Filling
import QueryTree.Schema.Document.Stored

/-! The order in which types are declared. A schema put together by hand is the same in any order of
its types, and so is one that is read from a document. Only where several types of a document cannot
be read does the order decide which of their faults is reported.
-/

namespace QueryTree

namespace Schema

/-- Two schemas answer alike: they list the same names in the same order, find the same subtypes,
offer the same defaults, and compile every expression to the same outcome.
-/
structure AnswersAlike (left right : Schema) : Prop where
  names : left.names = right.names
  subtypes : ∀ name, left.subtypes name = right.subtypes name
  defaults : ∀ name, left.defaultExpression name = right.defaultExpression name
  defaultsOfKind
    : ∀ name kind, left.defaultExpressionOfKind name kind = right.defaultExpressionOfKind name kind
  outcomes
    : ∀ maxDepth type subject expression,
        Compiler.generate ⟨left, maxDepth⟩ type subject expression
        = Compiler.generate ⟨right, maxDepth⟩ type subject expression
  outcomesForType
    : ∀ maxDepth name subject expression,
        Compiler.generateForType ⟨left, maxDepth⟩ name subject expression
        = Compiler.generateForType ⟨right, maxDepth⟩ name subject expression

/-- The schema that types are put into one by one, each replacing the one before it. -/
def replaceAll (types : List (String × ObjectType)) : Schema :=
  types.foldl (fun schema type => (schema.replace type.1 type.2).2) .empty

/-- The schema that types are added to one by one. -/
def withTypes (types : List (String × ObjectType)) : Schema :=
  types.foldl (fun schema type => schema.withType type.1 type.2) .empty

theorem replaceAll_eq_ofTypes (types : List (String × ObjectType))
    : replaceAll types = ofTypes types :=
  (NameMap.collect_eq_ofList types).symm

theorem withTypes_eq_ofTypes (types : List (String × ObjectType))
    : withTypes types = ofTypes types :=
  (NameMap.collect_eq_ofList types).symm

theorem ofTypes_perm {types others : List (String × ObjectType)} (order : types.Perm others)
    (distinct : (types.map Prod.fst).Nodup)
    : ofTypes types = ofTypes others := by
  unfold ofTypes
  rw [NameMap.collect_eq_ofList, NameMap.collect_eq_ofList, NameMap.ofList_perm order distinct]

theorem answersAlike_of_perm {types others : List (String × ObjectType)}
    (order : types.Perm others) (distinct : (types.map Prod.fst).Nodup)
    : AnswersAlike (ofTypes types) (ofTypes others) := by
  rw [ofTypes_perm order distinct]
  constructor <;> intros <;> rfl

end Schema

namespace SchemaDocument

open Json (Alike Draft Ending Reader RecordField RecordShape)

/-- What a text holds around the object of its types, which is a field called `types` or the first
item of an array.
-/
inductive Surroundings where
  | named (before after : List (Option String × Draft)) (ending : Ending)
  | first (after : List Draft) (ending : Ending)

def Surroundings.around (types : Draft) : Surroundings → Draft
  | .named before after ending => .object (before ++ (some "types", types) :: after) ending
  | .first after ending => .array (types :: after) ending

/-- Two texts say the same, but where the object of the types has the fields `fields` in the one, it
has them in the order `others` in the other. No two of them have the same name.
-/
structure Reordered (fields others : List (Option String × Draft)) (text reordered : String)
    : Prop where
  order : fields.Perm others
  distinct : (fields.filterMap Prod.fst).Nodup
  written
    : ∃ (surroundings : Surroundings) (ending : Ending) (trailing : Bool),
        Draft.ofText text = ⟨surroundings.around (.object fields ending), trailing⟩
        ∧ Draft.ofText reordered = ⟨surroundings.around (.object others ending), trailing⟩

/-- One of the fields cannot be read as a type, for this fault. -/
def FaultyAmong (fields : List (Option String × Draft)) (fault : Json.Fault) : Prop :=
  ∃ field ∈ fields, Reader.entry TypeEntry.shape.read field = .error fault

section reordered

variable {fields others : List (Option String × Draft)} {text reordered : String}

/-- A document is read alike with its types in another order. -/
theorem read_alike (order : fields.Perm others) (distinct : (fields.filterMap Prod.fst).Nodup)
    (surroundings : Surroundings) (ending : Ending)
    : Alike (FaultyAmong fields)
        (shape.read (surroundings.around (.object fields ending)))
        (shape.read (surroundings.around (.object others ending))) := by
  have alike (record : SchemaDocument)
      : Alike (FaultyAmong fields)
          ((Reader.table TypeEntry.shape.read (.object fields ending)).map
            fun types => (⟨NameMap.ofList types⟩ : SchemaDocument))
          ((Reader.table TypeEntry.shape.read (.object others ending)).map
            fun types => ⟨NameMap.ofList types⟩) := by
    refine Reader.table_perm ?_ order distinct ending
    intro types reordered order distinct
    rw [NameMap.ofList_perm order distinct]
  cases surroundings with
  | named before after outer =>
      exact RecordShape.readFields_alike rfl alike before after outer shape.blank []
  | first after outer => exact RecordShape.readItems_alike alike [] after outer shape.blank

/-- The text of a document is read alike with its types in another order. -/
theorem ofText_alike (written : Reordered fields others text reordered)
    : Alike (FaultyAmong fields) (SchemaDocument.ofText text)
        (SchemaDocument.ofText reordered) := by
  obtain ⟨surroundings, ending, trailing, first, second⟩ := written.written
  unfold SchemaDocument.ofText Reader.ofText
  rw [first, second]
  exact Alike.and_then (fun document => if trailing then .error .malformed else .ok document)
    (read_alike written.order written.distinct surroundings ending)

/-- A schema is read alike from a text with its types in another order, or two types cannot be read,
for different faults, and both texts are refused for that.
-/
theorem schema_ofText_reordered (written : Reordered fields others text reordered)
    : Schema.ofText reordered = Schema.ofText text
      ∨ ∃ first second,
          first ≠ second
          ∧ FaultyAmong fields first
          ∧ FaultyAmong fields second
          ∧ Schema.ofText text = .error (.unreadable first)
          ∧ Schema.ofText reordered = .error (.unreadable second) := by
  unfold Schema.ofText
  rcases ofText_alike written with same | ⟨first, second, failed, failedToo, one, other⟩
  · exact .inl (by rw [same])
  · rw [failed, failedToo]
    by_cases same : first = second
    · exact .inl (by rw [same])
    · exact .inr ⟨first, second, same, one, other, rfl, rfl⟩

end reordered

end SchemaDocument

open Json (Draft)
open SchemaDocument (FaultyAmong Reordered)

/-- A schema has the last type of each name, whether its types are put into it one by one or all at
once, and types of different names give a schema that answers alike in any order. A document gives
the same schema or the same fault with its types in any order, unless two of them cannot be read,
for different faults: then neither order can be read, for a fault of one of the types.
-/
theorem Schema.declared_in_any_order
    : (∀ types : List (String × ObjectType),
        replaceAll types = ofTypes types
        ∧ withTypes types = ofTypes types
        ∧ ∀ name, (ofTypes types).get? name = NameMap.lastValue? types name)
      ∧ (∀ types others : List (String × ObjectType),
          types.Perm others
          → (types.map Prod.fst).Nodup
          → AnswersAlike (ofTypes types) (ofTypes others))
      ∧ ∀ fields others text reordered,
          Reordered fields others text reordered
          → Schema.ofText reordered = Schema.ofText text
            ∨ ∃ first second,
                first ≠ second
                ∧ FaultyAmong fields first
                ∧ FaultyAmong fields second
                ∧ Schema.ofText text = .error (.unreadable first)
                ∧ Schema.ofText reordered = .error (.unreadable second) := by
  refine ⟨fun types => ?_, fun types others order distinct => ?_, ?_⟩
  · exact ⟨replaceAll_eq_ofTypes types, withTypes_eq_ofTypes types, NameMap.get?_collect types⟩
  · exact answersAlike_of_perm order distinct
  · intro fields others text reordered written
    exact SchemaDocument.schema_ofText_reordered written

namespace SchemaDocument

/-- A member of the object of types, as it is written and as it is read. -/
structure WrittenMember where
  text : String
  field : Option String × Draft

/-- The text of a document with two members for its types. -/
def pairText (first second : WrittenMember) : String :=
  "\x7b\"types\":\x7b" ++ first.text ++ "," ++ second.text ++ "\x7d\x7d"

def pairDraft (first second : WrittenMember) : Draft :=
  Surroundings.around (.object [first.field, second.field] .closed) (.named [] [] .closed)

theorem reordered_pair {first second : WrittenMember}
    (distinct : ([first.field, second.field].filterMap Prod.fst).Nodup)
    (written : Draft.ofText (pairText first second) = ⟨pairDraft first second, false⟩)
    (rewritten : Draft.ofText (pairText second first) = ⟨pairDraft second first, false⟩)
    : Reordered [first.field, second.field] [second.field, first.field]
        (pairText first second) (pairText second first) where
  order := .swap second.field first.field []
  distinct := distinct
  written := ⟨.named [] [] .closed, .closed, false, written, rewritten⟩

/-- A hub that is named by what it has not. -/
def hub : WrittenMember where
  text := "\"Hub\":\x7b\"naming\":\"label\"\x7d"
  field := (some "Hub", .object [(some "naming", .string (some "label"))] .closed)

/-- A node with an unknown supertype. -/
def node : WrittenMember where
  text := "\"Node\":\x7b\"supertypes\":[\"Root\"]\x7d"
  field :=
    (some "Node", .object [(some "supertypes", .array [.string (some "Root")] .closed)] .closed)

end SchemaDocument

open SchemaDocument (pairText hub node) in
/-- Two types may be declared in either order, and of a hub and a node that are both at fault, the
hub is reported in either order of their texts.
-/
theorem Schema.hub_and_node_in_any_order
    : AnswersAlike (ofTypes [("Node", .empty), ("Hub", ObjectType.empty.withSupertype "Node")])
          (ofTypes [("Hub", ObjectType.empty.withSupertype "Node"), ("Node", .empty)])
      ∧ Schema.ofText (pairText hub node)
        = .error (.refused (.unknownNamingProperty "Hub" "label"))
      ∧ Schema.ofText (pairText node hub)
        = .error (.refused (.unknownNamingProperty "Hub" "label")) := by
  obtain ⟨_, alike, documents⟩ := declared_in_any_order
  have reported
      : Schema.ofText (pairText hub node)
        = .error (.refused (.unknownNamingProperty "Hub" "label")) := by
    set_option maxRecDepth 20000 in rfl
  have written
      : Reordered [hub.field, node.field] [node.field, hub.field] (pairText hub node)
          (pairText node hub) := by
    apply SchemaDocument.reordered_pair
    · decide
    · set_option maxRecDepth 20000 in rfl
    · set_option maxRecDepth 20000 in rfl
  refine ⟨alike _ _ (.swap _ _ []) (by decide), reported, ?_⟩
  rcases documents _ _ _ _ written with same | ⟨first, _, _, _, _, unreadable, _⟩
  · exact same.trans reported
  · exact absurd (reported.symm.trans unreadable) nofun

namespace SchemaDocument

/-- A number in the place of a type. -/
def count : WrittenMember where
  text := "\"Count\":1"
  field := (some "Count", .number (some (.integer 1)))

/-- A port with a number in the place of a data type. -/
def port : WrittenMember where
  text := "\"Port\":\x7b\"properties\":[\x7b\"id\":\"speed\",\"dataType\":1\x7d]\x7d"
  field :=
    (some "Port",
      .object
        [(some "properties",
          .array
            [.object
              [(some "id", .string (some "speed")), (some "dataType", .number (some (.integer 1)))]
              .closed]
            .closed)]
        .closed)

/-- Of two types that cannot be read, for different faults, the one that is written first is
reported.
-/
theorem order_decides_between_two_faults
    : Reordered [count.field, port.field] [port.field, count.field] (pairText count port)
          (pairText port count)
      ∧ Schema.ofText (pairText count port) = .error (.unreadable .mismatch)
      ∧ Schema.ofText (pairText port count) = .error (.unreadable .malformed) := by
  refine ⟨reordered_pair (by decide) ?_ ?_, ?_, ?_⟩ <;>
    set_option maxRecDepth 20000 in rfl

end SchemaDocument

end QueryTree
