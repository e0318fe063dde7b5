import QueryTree.Json.Number

/-! The tokens of a JSON text. The scanner is a fold over the characters: it keeps the tokens found
so far and the token it is in the middle of. The first character that cannot continue the text
becomes a `fault` token, and nothing after it is read, so the tokens before a fault are exactly what
the text says up to there.

Numbers that no double holds and strings with half a surrogate pair are tokens like any other, with
no value: they matter only to a reader that wants the value.
-/

namespace QueryTree.Json

/-- A token of a JSON text. -/
inductive Token where
  | openArray
  | closeArray
  | openObject
  | closeObject
  | comma
  | colon
  | null
  | bool (value : Bool)
  | number (value : Option Number)
  | string (text : Option String)
  | fault

/-- The characters of a string read so far, last first, as escapes may spell them in halves. -/
structure TextBuffer where
  chars : List Char
  high : Option Nat
  sound : Bool

namespace TextBuffer

/-- Nothing read yet. -/
def empty : TextBuffer := ⟨[], none, true⟩

/-- Adds a whole character; it may not stand between the halves of a pair. -/
def pushChar (buffer : TextBuffer) (c : Char) : TextBuffer :=
  { chars := c :: buffer.chars, high := none, sound := buffer.sound && buffer.high.isNone }

/-- The first half of a surrogate pair. -/
def isHigh (unit : Nat) : Bool :=
  0xD800 ≤ unit && unit < 0xDC00

/-- The second half of a surrogate pair. -/
def isLow (unit : Nat) : Bool :=
  0xDC00 ≤ unit && unit < 0xE000

/-- Adds a 16-bit unit written as an escape: a character, or half of one. -/
def pushUnit (buffer : TextBuffer) (unit : Nat) : TextBuffer :=
  match buffer.high with
  | some high =>
      if isLow unit then
        { buffer with
          chars := Char.ofNat (0x10000 + (high - 0xD800) * 0x400 + (unit - 0xDC00)) :: buffer.chars
          high := none }
      else { buffer with high := none, sound := false }
  | none =>
      if isHigh unit then { buffer with high := some unit }
      else if isLow unit then { buffer with sound := false }
      else buffer.pushChar (Char.ofNat unit)

/-- The string, unless half a pair stands alone in it. -/
def finish (buffer : TextBuffer) : Option String :=
  if buffer.sound && buffer.high.isNone then some (String.ofList buffer.chars.reverse) else none

end TextBuffer

/-- How far into a number literal the scanner is. -/
inductive NumberPhase where
  | sign
  | zero
  | whole
  | point
  | fraction
  | exponentMark
  | exponentSign
  | exponent
deriving DecidableEq

namespace NumberPhase

/-- The phase after one more character, if the literal can go on with it. -/
def next? (phase : NumberPhase) (c : Char) : Option NumberPhase :=
  match phase with
  | .sign => if c = '0' then some .zero else if c.isDigit then some .whole else none
  | .zero =>
      if c = '.' then some .point else if c = 'e' ∨ c = 'E' then some .exponentMark else none
  | .whole =>
      if c.isDigit then some .whole
      else if c = '.' then some .point
      else if c = 'e' ∨ c = 'E' then some .exponentMark
      else none
  | .point => if c.isDigit then some .fraction else none
  | .fraction =>
      if c.isDigit then some .fraction
      else if c = 'e' ∨ c = 'E' then some .exponentMark
      else none
  | .exponentMark =>
      if c = '+' ∨ c = '-' then some .exponentSign
      else if c.isDigit then some .exponent
      else none
  | .exponentSign | .exponent => if c.isDigit then some .exponent else none

/-- Whether a literal may end in this phase with `c` after it; a digit never follows a zero. -/
def endsBefore (phase : NumberPhase) (c : Char) : Bool :=
  match phase with
  | .zero => !c.isDigit
  | .whole | .fraction | .exponent => true
  | .sign | .point | .exponentMark | .exponentSign => false

/-- Whether a literal may end in this phase at the end of the text. -/
def complete : NumberPhase → Bool
  | .zero | .whole | .fraction | .exponent => true
  | .sign | .point | .exponentMark | .exponentSign => false

end NumberPhase

/-- What the scanner is in the middle of. -/
inductive ScanMode where
  /-- Between tokens. -/
  | between
  /-- In a keyword, with the letters that must still come. -/
  | word (token : Token) (due : List Char)
  /-- In a number, with its characters, last first. -/
  | number (phase : NumberPhase) (literal : List Char)
  /-- In a string. -/
  | text (buffer : TextBuffer)
  /-- In a string, after a backslash. -/
  | escape (buffer : TextBuffer)
  /-- In a string, in a numeric escape with `due` hexadecimal digits to come. -/
  | unit (buffer : TextBuffer) (due : Nat) (value : Nat)
  /-- After a fault. -/
  | broken

/-- The tokens found so far, last first, and what the scanner is in the middle of. -/
structure ScanState where
  tokens : List Token
  mode : ScanMode

/-- The blanks that may stand between tokens. -/
def isBlank (c : Char) : Bool :=
  c = ' ' || c = '\t' || c = '\n' || c = '\r'

/-- The value of a hexadecimal digit of either case. -/
def hexValue? (c : Char) : Option Nat :=
  if c.isDigit then some (c.toNat - '0'.toNat)
  else if 'a' ≤ c ∧ c ≤ 'f' then some (c.toNat - 'a'.toNat + 10)
  else if 'A' ≤ c ∧ c ≤ 'F' then some (c.toNat - 'A'.toNat + 10)
  else none

/-- The character that a one-letter escape stands for. -/
def escaped? (c : Char) : Option Char :=
  match c with
  | '"' => some '"'
  | '\\' => some '\\'
  | '/' => some '/'
  | 'b' => some '\x08'
  | 'f' => some '\x0c'
  | 'n' => some '\n'
  | 'r' => some '\r'
  | 't' => some '\t'
  | _ => none

namespace ScanState

/-- Nothing read yet. -/
def start : ScanState := ⟨[], .between⟩

/-- Finishes a token. -/
def emit (tokens : List Token) (token : Token) : ScanState :=
  ⟨token :: tokens, .between⟩

/-- Gives up at a character that cannot continue the text. -/
def fail (tokens : List Token) : ScanState :=
  ⟨.fault :: tokens, .broken⟩

/-- A character between tokens: a blank, a mark, or the start of a longer token. -/
def begin (tokens : List Token) (c : Char) : ScanState :=
  match c with
  | '[' => emit tokens .openArray
  | ']' => emit tokens .closeArray
  | '{' => emit tokens .openObject
  | '}' => emit tokens .closeObject
  | ',' => emit tokens .comma
  | ':' => emit tokens .colon
  | '"' => ⟨tokens, .text .empty⟩
  | 'n' => ⟨tokens, .word .null ['u', 'l', 'l']⟩
  | 't' => ⟨tokens, .word (.bool true) ['r', 'u', 'e']⟩
  | 'f' => ⟨tokens, .word (.bool false) ['a', 'l', 's', 'e']⟩
  | '-' => ⟨tokens, .number .sign ['-']⟩
  | '0' => ⟨tokens, .number .zero ['0']⟩
  | c =>
      if isBlank c then ⟨tokens, .between⟩
      else if c.isDigit then ⟨tokens, .number .whole [c]⟩
      else fail tokens

/-- Reads one character. -/
def step (state : ScanState) (c : Char) : ScanState :=
  match state.mode with
  | .between => begin state.tokens c
  | .word _ [] => fail state.tokens
  | .word token (d :: due) =>
      if c ≠ d then fail state.tokens
      else if due.isEmpty then emit state.tokens token
      else ⟨state.tokens, .word token due⟩
  | .number phase literal =>
      match phase.next? c with
      | some phase => ⟨state.tokens, .number phase (c :: literal)⟩
      | none =>
          if phase.endsBefore c then
            begin (.number (Number.ofLiteral? literal.reverse) :: state.tokens) c
          else fail state.tokens
  | .text buffer =>
      if c = '"' then emit state.tokens (.string buffer.finish)
      else if c = '\\' then ⟨state.tokens, .escape buffer⟩
      else if c < ' ' then fail state.tokens
      else ⟨state.tokens, .text (buffer.pushChar c)⟩
  | .escape buffer =>
      if c = 'u' then ⟨state.tokens, .unit buffer 4 0⟩
      else
        match escaped? c with
        | some d => ⟨state.tokens, .text (buffer.pushChar d)⟩
        | none => fail state.tokens
  | .unit buffer due value =>
      match hexValue? c with
      | some digit =>
          let value := value * 16 + digit
          if due ≤ 1 then ⟨state.tokens, .text (buffer.pushUnit value)⟩
          else ⟨state.tokens, .unit buffer (due - 1) value⟩
      | none => fail state.tokens
  | .broken => state

/-- The tokens of the whole text: a token cut short by its end is a fault. -/
def finish (state : ScanState) : List Token :=
  match state.mode with
  | .between | .broken => state.tokens.reverse
  | .number phase literal =>
      if phase.complete then (.number (Number.ofLiteral? literal.reverse) :: state.tokens).reverse
      else (.fault :: state.tokens).reverse
  | .word .. | .text _ | .escape _ | .unit .. => (.fault :: state.tokens).reverse

end ScanState

/-- The tokens of a text, up to and including its first fault. -/
def tokens (text : List Char) : List Token :=
  (text.foldl ScanState.step ScanState.start).finish

end QueryTree.Json
