/-! The parts of a configuration text in TOML. A document is a list of statements, one a line: a
header, or a key with its value. A key is a path of names. The fields of a table keep the paths they
are written with, and no path leads through another, so each path holds one value.
-/

namespace QueryTree.Toml

/-- The names of a dotted key, in order. -/
abbrev Path := List String

/-- A value. -/
inductive Value where
  | integer (value : Int)
  | text (value : String)
  /-- A truth value, a float, a date, a time or an integer without a number, of which only the form
  is looked at.
  -/
  | other
  | array (items : List Value)
  | table (fields : List (Path × Value))

/-- The fields of an inline table, each at its path. -/
abbrev Fields := List (Path × Value)

/-- A line of a document. -/
inductive Statement where
  /-- The start of the table at a path. -/
  | header (path : Path)
  /-- The start of one more table in the list of tables at a path. -/
  | listHeader (path : Path)
  /-- A key and its value. -/
  | assign (path : Path) (value : Value)

/-- Whether one of two paths leads to or through the other. -/
def Path.overlaps (left right : Path) : Bool :=
  left.isPrefixOf right || right.isPrefixOf left

/-- Whether no path of a list overlaps another. -/
def disjoint : List Path → Bool
  | [] => true
  | path :: paths => !paths.any path.overlaps && disjoint paths

end QueryTree.Toml
