import QueryTree.Compile.Fault
import QueryTree.Expression.Basic
import QueryTree.Json.Reader

/-! Reading expressions from their stored form. The tags of a tree are looked at first, in the order
in which the nodes stand, so a tree with a kind of node that is not known here is refused for that
kind, whatever else is wrong with it. Only then is the shape of the tree read.

A node may also be written as an array: its tag, then the values of its fields in order. The tags of
such nodes, and of what is inside them, are read with the shape. Below the root, a tag read with the
shape may be the position of the kind in the list of kinds.
-/

namespace QueryTree

open Json (lookup)

/-- Why a text or value is not an expression. -/
inductive DecodeFault where
  /-- It cannot be read. -/
  | unreadable (fault : Json.Fault)
  /-- It has a node of a kind that is not known. -/
  | refused (fault : CompileFault)
deriving DecidableEq

/-- A field's value is smaller than the list of fields, by induction on the list. -/
theorem Json.sizeOf_lookup {fields : List (String × Json)} {name : String} {value : Json}
    (h : lookup fields name = some value)
    : sizeOf value < sizeOf fields := by
  obtain ⟨field, found, rfl⟩ := Option.map_eq_some_iff.mp h
  have member := List.sizeOf_lt_of_mem (List.mem_of_find?_eq_some found)
  have part : sizeOf field.2 < sizeOf field := by
    cases field
    simp +arith
  omega

namespace Expression

/-- What a node of an unknown kind is called when it has no tag. -/
def missingKind : String := "(missing)"

mutual

/-- Refuses a value if a node in it, looked for in order, has a tag that is not known. -/
def checkKinds (value : Json) : Except CompileFault Unit :=
  match value with
  | .object fields =>
      match lookup fields "type" with
      | some (.string tag) =>
          match (Vocabulary.find? tag : Option ExpressionKind) with
          | none => .error (.unrecognizedKind tag)
          | some .boolean =>
              match _found : lookup fields "subExpressions" with
              | some (.array members) => checkMemberKinds members
              | _ => .ok ()
          | some .relationship | some .negatedRelationship =>
              match _found : lookup fields "relationshipQuery" with
              | some query => checkKinds query
              | none => .ok ()
          | some .typeSwitch =>
              match _found : lookup fields "typeQueries" with
              | some (.array arms) => checkArmKinds arms
              | _ => .ok ()
          | some .property | some .name | some .hasInsight | some .negatedHasInsight => .ok ()
      | _ => .error (.unrecognizedKind missingKind)
  | _ => .ok ()
termination_by sizeOf value
decreasing_by
  all_goals
    have := Json.sizeOf_lookup _found
    simp only [Json.object.sizeOf_spec, Json.array.sizeOf_spec] at this ⊢
    omega

/-- Refuses the first member with an unknown tag in it. -/
def checkMemberKinds (members : List Json) : Except CompileFault Unit :=
  match members with
  | [] => .ok ()
  | member :: rest =>
      match checkKinds member with
      | .error fault => .error fault
      | .ok () => checkMemberKinds rest
termination_by sizeOf members

/-- Refuses the first arm with an unknown tag in its query; an arm that is no object has none. -/
def checkArmKinds (arms : List Json) : Except CompileFault Unit :=
  match arms with
  | [] => .ok ()
  | arm :: rest =>
      match checkArmKind arm with
      | .error fault => .error fault
      | .ok () => checkArmKinds rest
termination_by sizeOf arms

/-- Refuses an arm with an unknown tag in its query. -/
def checkArmKind (arm : Json) : Except CompileFault Unit :=
  match arm with
  | .object fields =>
      match _found : lookup fields "query" with
      | some query => checkKinds query
      | none => .ok ()
  | _ => .ok ()
termination_by sizeOf arm
decreasing_by
  have := Json.sizeOf_lookup _found
  simp only [Json.object.sizeOf_spec]
  omega

end

/-- The values that a node or an arm is made of, by name or by position. -/
inductive Arguments where
  | named (fields : List (String × Json))
  | listed (items : List Json)

namespace Arguments

/-- The value with a given name and position. -/
def get? (arguments : Arguments) (position : Nat) (name : String) : Option Json :=
  match arguments with
  | .named fields => lookup fields name
  | .listed items => items[position]?

/-- Whether there are no more values than `count` when they go by position. -/
def fit (arguments : Arguments) (count : Nat) : Bool :=
  match arguments with
  | .named _ => true
  | .listed items => items.length ≤ count

/-- A value is smaller than the arguments it is taken from. -/
theorem sizeOf_get? {arguments : Arguments} {position : Nat} {name : String} {value : Json}
    (h : arguments.get? position name = some value)
    : sizeOf value < sizeOf arguments := by
  cases arguments with
  | named fields =>
      have := Json.sizeOf_lookup (show lookup fields name = some value from h)
      simp only [named.sizeOf_spec]
      omega
  | listed items =>
      have found : items[position]? = some value := h
      have := List.sizeOf_lt_of_mem (List.mem_of_getElem? found)
      simp only [listed.sizeOf_spec]
      omega

/-- The string with a given name and position. -/
def text? (arguments : Arguments) (position : Nat) (name : String) : Option String :=
  match arguments.get? position name with
  | some (.string text) => some text
  | _ => none

/-- A word of a vocabulary in a tree: its token, or an object of that one field holding nothing. -/
def wordOf? {α : Type} [Vocabulary α] : Json → Option α
  | .string token => Vocabulary.find? token
  | .object [(token, .null)] | .object [(token, .object [])] => Vocabulary.find? token
  | _ => none

/-- The word with a given name and position. -/
def word? {α : Type} [Vocabulary α] (arguments : Arguments) (position : Nat) (name : String)
    : Option α :=
  (arguments.get? position name).bind wordOf?

end Arguments

/-- The kind that a tag stands for; positions in the list of kinds count where `byPosition` says
so.
-/
def kindOf? (byPosition : Bool) : Json → Option ExpressionKind
  | .string tag => Vocabulary.find? tag
  | .number (.integer (.ofNat position)) =>
      if byPosition then (Vocabulary.all : List ExpressionKind)[position]? else none
  | _ => none

mutual

/-- The expression that a value is the stored form of. -/
def decode? (byPosition : Bool) (value : Json) : Option Expression :=
  match value with
  | .object fields =>
      match (lookup fields "type").bind (kindOf? byPosition) with
      | some kind => decodeNode? kind (.named fields)
      | none => none
  | .array (tag :: items) =>
      match kindOf? byPosition tag with
      | some kind => decodeNode? kind (.listed items)
      | none => none
  | _ => none
termination_by (sizeOf value, 1)
decreasing_by
  · simp only [Arguments.named.sizeOf_spec, Json.object.sizeOf_spec]
    exact Prod.Lex.right _ (by decide)
  · simp only [Arguments.listed.sizeOf_spec, Json.array.sizeOf_spec, List.cons.sizeOf_spec]
    exact Prod.Lex.left _ _ (by omega)

/-- The node of a kind with given arguments. -/
def decodeNode? (kind : ExpressionKind) (arguments : Arguments) : Option Expression :=
  match kind with
  | .boolean =>
      match arguments.word? 0 "combiner", arguments.fit 2 with
      | some combiner, true =>
          match _found : arguments.get? 1 "subExpressions" with
          | some (.array members) => (decodeMembers? members).map (Expression.boolean combiner)
          | _ => none
      | _, _ => none
  | .property =>
      match arguments.text? 0 "property", arguments.word? 1 "operator",
          arguments.text? 2 "operand", arguments.fit 3 with
      | some id, some operator, some operand, true => some (.property id operator operand)
      | _, _, _, _ => none
  | .relationship | .negatedRelationship =>
      match arguments.text? 0 "relationshipName", arguments.fit 2 with
      | some id, true =>
          let negated := kind = .negatedRelationship
          match _found : arguments.get? 1 "relationshipQuery" with
          | none | some .null => some (.relationship negated id none)
          | some query =>
              (decode? true query).map fun query => .relationship negated id (some query)
      | _, _ => none
  | .name =>
      match arguments.word? 0 "operator", arguments.text? 1 "operand", arguments.fit 2 with
      | some operator, some operand, true => some (.name operator operand)
      | _, _, _ => none
  | .hasInsight | .negatedHasInsight =>
      match arguments.text? 0 "insightBadge", arguments.fit 1 with
      | some badge, true => some (.insight (kind = .negatedHasInsight) badge)
      | _, _ => none
  | .typeSwitch =>
      match arguments.fit 1 with
      | true =>
          match _found : arguments.get? 0 "typeQueries" with
          | some (.array arms) => (decodeArms? arms).map Expression.typeSwitch
          | _ => none
      | false => none
termination_by (sizeOf arguments, 0)
decreasing_by
  · have := Arguments.sizeOf_get? _found
    simp only [Json.array.sizeOf_spec] at this
    exact Prod.Lex.left _ _ (by omega)
  · exact Prod.Lex.left _ _ (Arguments.sizeOf_get? _found)
  · have := Arguments.sizeOf_get? _found
    simp only [Json.array.sizeOf_spec] at this
    exact Prod.Lex.left _ _ (by omega)

/-- The members of a group. -/
def decodeMembers? (members : List Json) : Option (List Expression) :=
  match members with
  | [] => some []
  | member :: rest =>
      match decode? true member with
      | none => none
      | some member => (decodeMembers? rest).map (member :: ·)
termination_by (sizeOf members, 1)

/-- The arms of a type switch. -/
def decodeArms? (arms : List Json) : Option (List TypeArm) :=
  match arms with
  | [] => some []
  | arm :: rest =>
      match decodeArm? arm with
      | none => none
      | some arm => (decodeArms? rest).map (arm :: ·)
termination_by (sizeOf arms, 1)

/-- An arm of a type switch, as an object or an array. -/
def decodeArm? (arm : Json) : Option TypeArm :=
  match arm with
  | .object fields => decodeArmArguments? (.named fields)
  | .array items => decodeArmArguments? (.listed items)
  | _ => none
termination_by (sizeOf arm, 1)

/-- The arm with given arguments. -/
def decodeArmArguments? (arguments : Arguments) : Option TypeArm :=
  match arguments.text? 0 "typeSelector", arguments.fit 2 with
  | some selector, true =>
      match _found : arguments.get? 1 "query" with
      | none | some .null => some (.arm selector none)
      | some query => (decode? true query).map fun query => .arm selector (some query)
  | _, _ => none
termination_by (sizeOf arguments, 0)
decreasing_by
  exact Prod.Lex.left _ _ (Arguments.sizeOf_get? _found)

end

/-- Reads an expression from a JSON value, kinds before shape. -/
def ofJson (value : Json) : Except DecodeFault Expression :=
  match checkKinds value with
  | .error fault => .error (.refused fault)
  | .ok () =>
      match decode? false value with
      | some expression => .ok expression
      | none => .error (.unreadable .mismatch)

/-- Reads an expression from a text. -/
def ofText (text : String) : Except DecodeFault Expression :=
  match Json.parse? text with
  | some value => ofJson value
  | none => .error (.unreadable .malformed)

end Expression

end QueryTree
