/-! JSON values. An object keeps its fields in the order they are written, and each name once:
setting a field that is already there replaces its value in place, so the last of several equal
names is the one that counts.
-/

namespace QueryTree

/-- A number is an integer of at most 64 bits, or any other literal, kept as it was written. -/
inductive Json.Number where
  | integer (value : Int)
  | decimal (literal : String)
deriving DecidableEq

/-- A JSON value. -/
inductive Json where
  | null
  | bool (value : Bool)
  | number (value : Json.Number)
  | string (text : String)
  | array (items : List Json)
  | object (fields : List (String × Json))

namespace Json

/-- The value of the field called `name`. -/
def lookup (fields : List (String × Json)) (name : String)
    : Option Json :=
  (fields.find? fun field => field.1 == name).map Prod.snd

/-- Gives the field called `name` the value `value`, in its place if it is there already. -/
def setField (name : String) (value : Json)
    : List (String × Json) → List (String × Json)
  | [] => [(name, value)]
  | field :: rest =>
      if field.1 = name then (name, value) :: rest
      else field :: setField name value rest

/-- The fields that remain when the last of several equal names wins. -/
def lastWins (fields : List (String × Json))
    : List (String × Json) :=
  fields.foldl (fun kept field => setField field.1 field.2 kept) []

/-- A natural number as a JSON value. -/
def ofNat (n : Nat) : Json :=
  .number (.integer n)

/-- A string, or `null` where there is none. -/
def ofText? (text : Option String) : Json :=
  (text.map Json.string).getD .null

/-- A list of strings. -/
def ofTexts (texts : List String) : Json :=
  .array (texts.map Json.string)

end Json

end QueryTree
