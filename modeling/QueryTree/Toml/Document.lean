import QueryTree.Toml.Scalar

/-! Reading documents. The tokens are read one a step, with the arrays and inline tables that are
still open on a stack, so the grammar is a table of what may come next. Keys and headers end with
their line. Inside brackets and braces a line may end before and after every value, comma and equals
sign, but not inside a key.
-/

namespace QueryTree.Toml

/-- Arrays and inline tables may nest this deep, and a key may have this many names. -/
def nestingLimit : Nat := 80

/-- What a key is read for. -/
inductive KeyUse where
  | header
  | listHeader
  | statement
  /-- A field of an inline table, after the fields `done`, last first. -/
  | field (done : Fields)

/-- What a value is read for. -/
inductive Frame where
  | statement (path : Path)
  /-- An item of an array, after the items `done`, last first. -/
  | item (done : List Value)
  /-- A field of an inline table, after the fields `done`, last first. -/
  | field (done : Fields) (path : Path)

/-- Where in the grammar the next token is read. -/
inductive Position where
  /-- At the start of a line. -/
  | line
  /-- After the bracket that starts a line. -/
  | bracket
  /-- A name of a key must come, after `names`, last first. -/
  | name (use : KeyUse) (names : List String)
  /-- A name of a key has been read. -/
  | afterName (use : KeyUse) (names : List String)
  /-- The equals sign of a field must come, after the fields `done`, last first. -/
  | fieldEquals (done : Fields) (path : Path)
  /-- The second closing bracket of a header must come. -/
  | headerEnd (path : Path)
  /-- The line must end. -/
  | lineEnd
  /-- A value must come on this line. -/
  | value
  /-- The value of a field must come. -/
  | fieldValue
  /-- An item of an array must come, or the end of the array. -/
  | item (done : List Value)
  /-- A field of an inline table must come, or the end of the table. -/
  | field (done : Fields)
  /-- In an unquoted scalar. -/
  | scalar (text : List Char)
  /-- After blanks behind an unquoted scalar; a word makes them part of it, as the time does that
  follows a date.
  -/
  | scalarBlank (text blank : List Char)
  /-- A value inside brackets or braces is complete. -/
  | after (value : Value)
  /-- After a fault. -/
  | broken

/-- The statements read so far, last first, and what is still open. -/
structure Reading where
  statements : List Statement
  stack : List Frame
  position : Position

/-- Whether a character may stand in a name without quotation marks. -/
def inBareName (c : Char) : Bool :=
  c.isAlphanum || c = '-' || c = '_'

/-- The name that a token is. -/
def Token.name? : Token → Option String
  | .word text => if text.all inBareName then some (String.ofList text) else none
  | .string text false => some text
  | _ => none

/-- Whether a token is nothing but white space on one line. -/
def Token.isBlank : Token → Bool
  | .blank _ => true
  | _ => false

/-- Whether a token is white space or the end of a line. -/
def Token.isGap : Token → Bool
  | .blank _ | .newline => true
  | _ => false

namespace Reading

/-- Nothing read yet. -/
def start : Reading := ⟨[], [], .line⟩

/-- The same with another place in the grammar. -/
def moveTo (reading : Reading) (position : Position) : Reading :=
  { reading with position }

/-- Adds a statement, after which the line must end. -/
def finish (reading : Reading) (statement : Statement) : Reading :=
  ⟨statement :: reading.statements, [], .lineEnd⟩

/-- Puts a complete value where it belongs. -/
def place (reading : Reading) (value : Value) : Reading :=
  match reading.stack with
  | [] => reading.moveTo .broken
  | .statement path :: _ => reading.finish (.assign path value)
  | .item _ :: _ | .field _ _ :: _ => reading.moveTo (.after value)

/-- Opens an array or an inline table if it is not nested too deep; of the stack only the frame of
the statement is no level of nesting.
-/
def enter (reading : Reading) (position : Position) : Reading :=
  if reading.stack.length ≤ nestingLimit then reading.moveTo position else reading.moveTo .broken

/-- A token where a value must come. -/
def takeValue (reading : Reading) (token : Token) : Reading :=
  match token with
  | .openBracket => reading.enter (.item [])
  | .openBrace => reading.enter (.field [])
  | .string text _ => reading.place (.text text)
  | .word text => reading.moveTo (.scalar text)
  | _ => reading.moveTo .broken

/-- Starts to read a value, remembering what it is for. -/
def push (reading : Reading) (frame : Frame) (position : Position) : Reading :=
  { reading with stack := frame :: reading.stack, position }

/-- Completes an inline table, whose paths must not lead through each other. -/
def closeTable (reading : Reading) (done : Fields) : Reading :=
  if disjoint (done.map Prod.fst) then reading.place (.table done.reverse)
  else reading.moveTo .broken

/-- A token after a value inside brackets or braces. -/
def takeAfter (reading : Reading) (value : Value) (token : Token) : Reading :=
  match reading.stack, token with
  | .item done :: stack, .comma =>
      { reading with stack, position := .item (value :: done) }
  | .item done :: stack, .closeBracket =>
      place { reading with stack } (.array (value :: done).reverse)
  | .field done path :: stack, .comma =>
      { reading with stack, position := .field ((path, value) :: done) }
  | .field done path :: stack, .closeBrace =>
      closeTable { reading with stack } ((path, value) :: done)
  | _, token => if token.isGap then reading.moveTo (.after value) else reading.moveTo .broken

/-- A token after a complete value. -/
def takeAny (reading : Reading) (token : Token) : Reading :=
  match reading.position with
  | .after value => reading.takeAfter value token
  | .lineEnd =>
      match token with
      | .newline => reading.moveTo .line
      | .blank _ => reading
      | _ => reading.moveTo .broken
  | _ => reading.moveTo .broken

/-- Completes an unquoted scalar at the token behind it. -/
def endScalar (reading : Reading) (text : List Char) (token : Token) : Reading :=
  match Scalar.read? text with
  | some value => (reading.place value).takeAny token
  | none => reading.moveTo .broken

/-- A token where a name must come. -/
def takeName (reading : Reading) (use : KeyUse) (names : List String) (token : Token) : Reading :=
  if token.isBlank then reading.moveTo (.name use names)
  else if nestingLimit ≤ names.length then reading.moveTo .broken
  else
    match token.name? with
    | some name => reading.moveTo (.afterName use (name :: names))
    | none => reading.moveTo .broken

/-- A token where the equals sign of a field must come. -/
def takeFieldEquals (reading : Reading) (done : Fields) (path : Path) (token : Token) : Reading :=
  if token.isGap then reading.moveTo (.fieldEquals done path)
  else if token = .equals then reading.push (.field done path) .fieldValue
  else reading.moveTo .broken

/-- A token behind a name. -/
def takeAfterName (reading : Reading) (use : KeyUse) (names : List String) (token : Token)
    : Reading :=
  match use, token with
  | _, .blank _ => reading
  | use, .dot => reading.moveTo (.name use names)
  | .header, .closeBracket => reading.finish (.header names.reverse)
  | .listHeader, .closeBracket => reading.moveTo (.headerEnd names.reverse)
  | .statement, .equals => reading.push (.statement names.reverse) .value
  | .field done, token => reading.takeFieldEquals done names.reverse token
  | _, _ => reading.moveTo .broken

/-- Reads one token. -/
def step (reading : Reading) (token : Token) : Reading :=
  match reading.position with
  | .line =>
      match token with
      | .blank _ | .newline => reading
      | .openBracket => reading.moveTo .bracket
      | token => reading.takeName .statement [] token
  | .bracket =>
      match token with
      | .openBracket => reading.moveTo (.name .listHeader [])
      | token => reading.takeName .header [] token
  | .name use names => reading.takeName use names token
  | .afterName use names => reading.takeAfterName use names token
  | .fieldEquals done path => reading.takeFieldEquals done path token
  | .headerEnd path =>
      match token with
      | .closeBracket => reading.finish (.listHeader path)
      | _ => reading.moveTo .broken
  | .lineEnd | .after _ => reading.takeAny token
  | .value => if token.isBlank then reading else reading.takeValue token
  | .fieldValue => if token.isGap then reading else reading.takeValue token
  | .item done =>
      if token.isGap then reading
      else if token = .closeBracket then reading.place (.array done.reverse)
      else (reading.push (.item done) .value).takeValue token
  | .field done =>
      if token.isGap then reading
      else if token = .closeBrace then reading.closeTable done
      else reading.takeName (.field done) [] token
  | .scalar text =>
      match token with
      | .word more => reading.moveTo (.scalar (text ++ more))
      | .dot => reading.moveTo (.scalar (text ++ ['.']))
      | .blank blank => reading.moveTo (.scalarBlank text blank)
      | token => reading.endScalar text token
  | .scalarBlank text blank =>
      match token with
      | .word more => reading.moveTo (.scalar (text ++ blank ++ more))
      | token => reading.endScalar text token
  | .broken => reading

/-- The statements of a whole document, if it ends at the end of a line. -/
def statements? (reading : Reading) : Option (List Statement) :=
  match (reading.step .newline).position with
  | .line => some (reading.step .newline).statements.reverse
  | _ => none

end Reading

/-- The statements of a text. -/
def parse? (text : String) : Option (List Statement) :=
  ((tokens text.toList).foldl Reading.step .start).statements?

end QueryTree.Toml
