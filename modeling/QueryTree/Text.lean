/-! Texts and their characters. Blanks are what trimming takes away, identifiers are the names that
generated code may use for its subject, and string literals are how it writes any other text.
-/

namespace QueryTree.Text

/-- Whether a character has the Unicode property `White_Space`. -/
def isBlank (c : Char) : Bool :=
  let n := c.toNat
  (0x9 ≤ n && n ≤ 0xd) || n = 0x20 || n = 0x85 || n = 0xa0 || n = 0x1680
    || (0x2000 ≤ n && n ≤ 0x200a) || n = 0x2028 || n = 0x2029 || n = 0x202f || n = 0x205f
    || n = 0x3000

/-- A text without the blanks at its two ends. -/
def trim (text : List Char) : List Char :=
  ((text.dropWhile isBlank).reverse.dropWhile isBlank).reverse

/-- The letters of the Latin alphabet and the underscore. -/
def startsIdentifier (c : Char) : Bool :=
  c.isAlpha || c = '_'

/-- The letters, the digits and the underscore. -/
def continuesIdentifier (c : Char) : Bool :=
  c.isAlphanum || c = '_'

/-- Whether a text is a letter or underscore followed by letters, digits and underscores. -/
def isIdentifier (text : String) : Bool :=
  match text.toList with
  | [] => false
  | first :: rest => startsIdentifier first && rest.all continuesIdentifier

namespace Quoted

/-- A character as it is written inside a literal. A backslash is put before every backslash,
quotation mark and dollar sign, so the literal ends at its own closing mark and nothing in it is
interpolated.
-/
def escape (c : Char) : List Char :=
  if c = '\\' ∨ c = '"' ∨ c = '$' then ['\\', c] else [c]

/-- The characters of a literal between its quotation marks. -/
def body (text : List Char) : List Char :=
  text.flatMap escape

end Quoted

/-- The string literal that stands for `text`. -/
def quote (text : String) : String :=
  String.ofList ('"' :: (Quoted.body text.toList ++ ['"']))

end QueryTree.Text
