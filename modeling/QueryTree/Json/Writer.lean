import QueryTree.Json.Basic

/-! Writing JSON. The compact and the indented layout are one writer with two settings for the
blanks, so they differ in blanks outside strings only. Strings escape the quotation mark, the
backslash and the characters below the space; everything else is written as it is.
-/

namespace QueryTree.Json

/-- How the parts of a value are set off from each other. -/
inductive Layout where
  /-- No blanks at all. -/
  | compact
  /-- Every item and field on a line of its own, two spaces in for each level. -/
  | indented
deriving DecidableEq

/-- What stands before an item at nesting level `level`. -/
def Layout.lineBreak (layout : Layout) (level : Nat) : String :=
  match layout with
  | .compact => ""
  | .indented => String.ofList ('\n' :: List.replicate (2 * level) ' ')

/-- What stands between a name and its value. -/
def Layout.colon : Layout → String
  | .compact => ":"
  | .indented => ": "

/-- A digit of a hexadecimal number below sixteen, in lower case. -/
def hexDigit (n : Nat) : Char :=
  if n < 10 then Char.ofNat ('0'.toNat + n) else Char.ofNat ('a'.toNat + (n - 10))

/-- A character as it is written inside a string. -/
def escapeChar (c : Char) : List Char :=
  match c with
  | '"' => ['\\', '"']
  | '\\' => ['\\', '\\']
  | '\x08' => ['\\', 'b']
  | '\x0c' => ['\\', 'f']
  | '\n' => ['\\', 'n']
  | '\r' => ['\\', 'r']
  | '\t' => ['\\', 't']
  | c =>
      if c < ' ' then ['\\', 'u', '0', '0', hexDigit (c.toNat / 16), hexDigit (c.toNat % 16)]
      else [c]

/-- A string between its quotation marks. -/
def quoted (text : String) : String :=
  String.ofList ('"' :: (text.toList.flatMap escapeChar ++ ['"']))

/-- A number as it is written. -/
def Number.written : Number → String
  | .integer value => toString value
  | .decimal literal => literal

mutual

/-- A value written at nesting level `level`. -/
def writeAt (layout : Layout) (level : Nat) : Json → String
  | .null => "null"
  | .bool true => "true"
  | .bool false => "false"
  | .number value => value.written
  | .string text => quoted text
  | .array [] => "[]"
  | .array (item :: items) =>
      "[" ++ layout.lineBreak (level + 1) ++ writeAt layout (level + 1) item
        ++ writeItems layout (level + 1) items ++ layout.lineBreak level ++ "]"
  | .object [] => "\x7b\x7d"
  | .object (field :: fields) =>
      "\x7b" ++ layout.lineBreak (level + 1) ++ writeField layout (level + 1) field
        ++ writeFields layout (level + 1) fields ++ layout.lineBreak level ++ "\x7d"
termination_by structural value => value

/-- The items after the first, each behind a comma. -/
def writeItems (layout : Layout) (level : Nat) : List Json → String
  | [] => ""
  | item :: items =>
      "," ++ layout.lineBreak level ++ writeAt layout level item ++ writeItems layout level items
termination_by structural items => items

/-- The fields after the first, each behind a comma. -/
def writeFields (layout : Layout) (level : Nat) : List (String × Json) → String
  | [] => ""
  | field :: fields =>
      "," ++ layout.lineBreak level ++ writeField layout level field
        ++ writeFields layout level fields
termination_by structural fields => fields

/-- A field: its name, a colon and its value. -/
def writeField (layout : Layout) (level : Nat) : String × Json → String
  | (name, value) => quoted name ++ layout.colon ++ writeAt layout level value
termination_by structural field => field

end

/-- A value in the given layout. -/
def write (layout : Layout) (value : Json) : String :=
  writeAt layout 0 value

/-- A value without blanks. -/
def compact (value : Json) : String :=
  value.write .compact

end QueryTree.Json
