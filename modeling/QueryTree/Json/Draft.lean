import QueryTree.Json.Scanner

/-! A draft is the tree of a JSON text as far as the text is well formed: where a token does not
fit, the value due there is a `fault`, every array and object still open is marked as broken off,
and nothing after that is kept. Readers walk a draft from left to right, so what they meet first, a
value of the wrong shape or the end of the readable part, decides which of the two they report.
-/

namespace QueryTree.Json

/-- How an array or object of a draft ends. -/
inductive Ending where
  /-- With its closing bracket. -/
  | closed
  /-- At a place where the text cannot be read on. -/
  | broken
deriving DecidableEq

/-- A JSON text as far as it can be read. A number beyond every double and a string or name with
half a surrogate pair have no value.
-/
inductive Draft where
  | null
  | bool (value : Bool)
  | number (value : Option Number)
  | string (text : Option String)
  | array (items : List Draft) (ending : Ending)
  | object (fields : List (Option String × Draft)) (ending : Ending)
  | fault

namespace Draft

/-- An array or object that is still open, with what it holds so far, last first. -/
inductive Frame where
  | items (done : List Draft)
  | fields (done : List (Option String × Draft)) (name : Option String)

/-- Where in the grammar the next token is read. -/
inductive Position where
  /-- A value must come. -/
  | value
  /-- An array has just been opened: a value or its end must come. -/
  | firstItem
  /-- An object has just been opened: a name or its end must come. -/
  | firstName
  /-- A name must come, after the fields `done`. -/
  | name (done : List (Option String × Draft))
  /-- The colon after a name must come. -/
  | colon (done : List (Option String × Draft)) (name : Option String)
  /-- A value is complete: a comma or a closing bracket must come, or nothing at the top. -/
  | after (value : Draft)
  /-- The text broke off; this is the whole draft. -/
  | stopped (draft : Draft)
  /-- The text went on after its value. -/
  | trailing (draft : Draft)

/-- The draft under construction: the open arrays and objects, innermost first. -/
structure Builder where
  stack : List Frame
  position : Position

/-- The draft of a text and whether anything stands after its value. -/
structure Document where
  root : Draft
  trailing : Bool

namespace Builder

/-- Nothing read yet. -/
def start : Builder := ⟨[], .value⟩

/-- Closes every open array and object as broken off, around an innermost draft. -/
def unwind (draft : Draft) : List Frame → Draft
  | [] => draft
  | .items done :: stack => unwind (.array (draft :: done).reverse .broken) stack
  | .fields done name :: stack => unwind (.object ((name, draft) :: done).reverse .broken) stack

/-- Stops with `draft` in the place of the value being read. -/
def stop (stack : List Frame) (draft : Draft) : Builder :=
  ⟨[], .stopped (unwind draft stack)⟩

/-- The value that a token is by itself. -/
def scalar? : Token → Option Draft
  | .null => some .null
  | .bool value => some (.bool value)
  | .number value => some (.number value)
  | .string text => some (.string text)
  | _ => none

/-- A token where a value must come. -/
def placeValue (stack : List Frame) (token : Token) : Builder :=
  match token with
  | .openArray => ⟨stack, .firstItem⟩
  | .openObject => ⟨stack, .firstName⟩
  | token =>
      match scalar? token with
      | some draft => ⟨stack, .after draft⟩
      | none => stop stack .fault

/-- Reads one token. -/
def step (builder : Builder) (token : Token) : Builder :=
  let stack := builder.stack
  match builder.position with
  | .value => placeValue stack token
  | .firstItem =>
      match token with
      | .closeArray => ⟨stack, .after (.array [] .closed)⟩
      | token => placeValue (.items [] :: stack) token
  | .firstName =>
      match token with
      | .closeObject => ⟨stack, .after (.object [] .closed)⟩
      | .string name => ⟨stack, .colon [] name⟩
      | _ => stop stack (.object [] .broken)
  | .name done =>
      match token with
      | .string name => ⟨stack, .colon done name⟩
      | _ => stop stack (.object done.reverse .broken)
  | .colon done name =>
      match token with
      | .colon => ⟨.fields done name :: stack, .value⟩
      | _ => stop stack (.object ((name, .fault) :: done).reverse .broken)
  | .after value =>
      match stack, token with
      | [], _ => ⟨[], .trailing value⟩
      | .items done :: stack, .comma => ⟨.items (value :: done) :: stack, .value⟩
      | .items done :: stack, .closeArray =>
          ⟨stack, .after (.array (value :: done).reverse .closed)⟩
      | .items done :: stack, _ => stop stack (.array (value :: done).reverse .broken)
      | .fields done name :: stack, .comma => ⟨stack, .name ((name, value) :: done)⟩
      | .fields done name :: stack, .closeObject =>
          ⟨stack, .after (.object ((name, value) :: done).reverse .closed)⟩
      | .fields done name :: stack, _ =>
          stop stack (.object ((name, value) :: done).reverse .broken)
  | .stopped _ | .trailing _ => builder

/-- The draft at the end of the text. -/
def finish (builder : Builder) : Document :=
  match builder.position, builder.stack with
  | .stopped draft, _ => ⟨draft, false⟩
  | .trailing draft, _ => ⟨draft, true⟩
  | .after draft, [] => ⟨draft, false⟩
  | .after value, .items done :: stack =>
      ⟨unwind (.array (value :: done).reverse .broken) stack, false⟩
  | .after value, .fields done name :: stack =>
      ⟨unwind (.object ((name, value) :: done).reverse .broken) stack, false⟩
  | .value, stack => ⟨unwind .fault stack, false⟩
  | .firstItem, stack => ⟨unwind (.array [] .broken) stack, false⟩
  | .firstName, stack => ⟨unwind (.object [] .broken) stack, false⟩
  | .name done, stack => ⟨unwind (.object done.reverse .broken) stack, false⟩
  | .colon done name, stack =>
      ⟨unwind (.object ((name, .fault) :: done).reverse .broken) stack, false⟩

end Builder

/-- The draft of a text. -/
def ofText (text : String) : Document :=
  ((tokens text.toList).foldl Builder.step Builder.start).finish

mutual

/-- Whether the text under this draft is all there; numbers and strings need no value for it. -/
def readable : Draft → Bool
  | .null | .bool _ | .number _ | .string _ => true
  | .array items ending => readableItems items && ending = .closed
  | .object fields ending => readableFields fields && ending = .closed
  | .fault => false
termination_by structural draft => draft

/-- Whether every item is all there. -/
def readableItems : List Draft → Bool
  | [] => true
  | item :: items => item.readable && readableItems items
termination_by structural items => items

/-- Whether every field is all there. -/
def readableFields : List (Option String × Draft) → Bool
  | [] => true
  | field :: fields => readableField field && readableFields fields
termination_by structural fields => fields

/-- Whether a field is all there. -/
def readableField : Option String × Draft → Bool
  | (_, value) => value.readable
termination_by structural field => field

end

mutual

/-- The value that a draft holds, if it is all there, every number and string has a value, and
arrays and objects nest at most `room` deep.
-/
def value? (room : Nat) : Draft → Option Json
  | .null => some .null
  | .bool value => some (.bool value)
  | .number value => value.map Json.number
  | .string text => text.map Json.string
  | .array items .closed => if room = 0 then none else (items? (room - 1) items).map Json.array
  | .object fields .closed =>
      if room = 0 then none
      else (fields? (room - 1) fields).map fun fields => Json.object (lastWins fields)
  | .array _ _ | .object _ _ | .fault => none
termination_by structural draft => draft

/-- The values of all items. -/
def items? (room : Nat) : List Draft → Option (List Json)
  | [] => some []
  | item :: items =>
      match item.value? room with
      | none => none
      | some value => (items? room items).map (value :: ·)
termination_by structural items => items

/-- The names and values of all fields, in the order of the text. -/
def fields? (room : Nat) : List (Option String × Draft) → Option (List (String × Json))
  | [] => some []
  | field :: fields =>
      match field? room field with
      | none => none
      | some entry => (fields? room fields).map (entry :: ·)
termination_by structural fields => fields

/-- The name and value of a field. -/
def field? (room : Nat) : Option String × Draft → Option (String × Json)
  | (none, _) => none
  | (some name, value) => (value.value? room).map (name, ·)
termination_by structural field => field

end

end Draft

mutual

/-- The draft of a value that has been read before. -/
def toDraft : Json → Draft
  | .null => .null
  | .bool value => .bool value
  | .number value => .number (some value)
  | .string text => .string (some text)
  | .array items => .array (toDrafts items) .closed
  | .object fields => .object (toDraftFields fields) .closed
termination_by structural value => value

/-- The drafts of a list of values. -/
def toDrafts : List Json → List Draft
  | [] => []
  | item :: items => item.toDraft :: toDrafts items
termination_by structural items => items

/-- The drafts of fields. -/
def toDraftFields : List (String × Json) → List (Option String × Draft)
  | [] => []
  | field :: fields => toDraftField field :: toDraftFields fields
termination_by structural fields => fields

/-- The draft of a field. -/
def toDraftField : String × Json → Option String × Draft
  | (name, value) => (some name, value.toDraft)
termination_by structural field => field

end

/-- Arrays and objects of a text may nest this deep. -/
def nestingLimit : Nat := 127

/-- The value of a text with at most `room` levels of nesting, if it is one JSON value. -/
def parseWithin? (room : Nat) (text : String) : Option Json :=
  let document := Draft.ofText text
  if document.trailing then none else document.root.value? room

/-- The value of a text, if it is one JSON value within the nesting limit. -/
def parse? (text : String) : Option Json :=
  parseWithin? nestingLimit text

end QueryTree.Json
