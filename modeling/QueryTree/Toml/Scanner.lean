import QueryTree.Json.Scanner

/-! Scanning TOML. The text is read one character a step into tokens. A word is any run of
characters that are neither blank nor a mark, quotation marks included once it has begun; what it
means is decided where it stands, in a key or in a value. Comments leave nothing behind, and the
first character that cannot be read ends the tokens with a fault.
-/

namespace QueryTree.Toml

/-- A token of a document. -/
inductive Token where
  | openBracket
  | closeBracket
  | openBrace
  | closeBrace
  | comma
  | equals
  | dot
  | newline
  /-- A run of spaces and tabs, which an unquoted scalar may hold as part of it. -/
  | blank (text : List Char)
  | word (text : List Char)
  /-- A string, which may be one that spans lines. -/
  | string (text : String) (block : Bool)
  | fault
deriving DecidableEq

/-- How a string is delimited: by which quotation mark, and whether by three of them. -/
structure Delimiter where
  mark : Char
  block : Bool
deriving DecidableEq

/-- Whether backslashes have a meaning in the string. -/
def Delimiter.escapes (delimiter : Delimiter) : Bool :=
  delimiter.mark = '"'

/-- What the scanner is in the middle of; the characters of a run or string are held last first. -/
inductive ScanMode where
  /-- Between tokens. -/
  | between
  /-- In a run of blanks. -/
  | blank (run : List Char)
  /-- In a word. -/
  | word (run : List Char)
  /-- In a comment. -/
  | comment
  /-- After a carriage return, which must end a line. -/
  | return
  /-- After the first quotation mark of a string. -/
  | opening (mark : Char)
  /-- After the second quotation mark, which makes an empty string or, with a third, a block. -/
  | reopening (mark : Char)
  /-- At the start of a block, where a line break is dropped. -/
  | blockStart (mark : Char)
  /-- After a carriage return at the start of a block. -/
  | blockStartReturn (mark : Char)
  /-- In a string. -/
  | text (delimiter : Delimiter) (content : List Char)
  /-- In a block, after some quotation marks, of which the last three may end it. -/
  | closing (mark : Char) (content : List Char) (marks : Nat)
  /-- In a block, after a carriage return. -/
  | blockReturn (mark : Char) (content : List Char)
  /-- After a backslash. -/
  | escape (delimiter : Delimiter) (content : List Char)
  /-- In a numeric escape with `due` hexadecimal digits to come. -/
  | code (delimiter : Delimiter) (content : List Char) (due value : Nat)
  /-- In a block, among the blanks after a backslash, with a line break among them or not yet. -/
  | fold (content : List Char) (broken : Bool)
  /-- The same after a carriage return. -/
  | foldReturn (content : List Char)
  /-- After a fault. -/
  | broken

/-- The tokens found so far, last first, and what the scanner is in the middle of. -/
structure ScanState where
  tokens : List Token
  mode : ScanMode

/-- A control character other than the tab, which no comment or string may hold. -/
def isControl (c : Char) : Bool :=
  (c < ' ' && c ≠ '\t') || c = '\x7f'

/-- The character that a one-letter escape stands for. -/
def escaped? (c : Char) : Option Char :=
  match c with
  | '"' => some '"'
  | '\\' => some '\\'
  | 'b' => some '\x08'
  | 'e' => some '\x1b'
  | 'f' => some '\x0c'
  | 'n' => some '\n'
  | 'r' => some '\r'
  | 't' => some '\t'
  | _ => none

/-- How many hexadecimal digits a numeric escape has. -/
def escapeDigits? (c : Char) : Option Nat :=
  match c with
  | 'x' => some 2
  | 'u' => some 4
  | 'U' => some 8
  | _ => none

namespace ScanState

/-- Nothing read yet. -/
def start : ScanState := ⟨[], .between⟩

/-- Finishes a token. -/
def emit (tokens : List Token) (token : Token) : ScanState :=
  ⟨token :: tokens, .between⟩

/-- Gives up at a character that cannot continue the text. -/
def fail (tokens : List Token) : ScanState :=
  ⟨.fault :: tokens, .broken⟩

/-- Finishes a string. -/
def emitString (tokens : List Token) (block : Bool) (content : List Char) : ScanState :=
  emit tokens (.string (String.ofList content.reverse) block)

/-- A character between tokens: a mark, or the start of a longer token. -/
def begin (tokens : List Token) (c : Char) : ScanState :=
  match c with
  | '[' => emit tokens .openBracket
  | ']' => emit tokens .closeBracket
  | '{' => emit tokens .openBrace
  | '}' => emit tokens .closeBrace
  | ',' => emit tokens .comma
  | '=' => emit tokens .equals
  | '.' => emit tokens .dot
  | '\n' => emit tokens .newline
  | '\r' => ⟨tokens, .return⟩
  | '#' => ⟨tokens, .comment⟩
  | '"' | '\'' => ⟨tokens, .opening c⟩
  | ' ' | '\t' => ⟨tokens, .blank [c]⟩
  | c => ⟨tokens, .word [c]⟩

/-- The characters that end a word. -/
def wordEnds : List Char :=
  ['[', ']', '{', '}', ',', '=', '.', '\n', '\r', '#', ' ', '\t']

/-- Whether a character continues a word. -/
def inWord (c : Char) : Bool :=
  !wordEnds.contains c

/-- A character in a string. -/
def inText (tokens : List Token) (delimiter : Delimiter) (content : List Char) (c : Char)
    : ScanState :=
  if c = delimiter.mark then
    if delimiter.block then ⟨tokens, .closing delimiter.mark content 1⟩
    else emitString tokens false content
  else if c = '\\' && delimiter.escapes then ⟨tokens, .escape delimiter content⟩
  else if delimiter.block && c = '\n' then ⟨tokens, .text delimiter (c :: content)⟩
  else if delimiter.block && c = '\r' then ⟨tokens, .blockReturn delimiter.mark content⟩
  else if isControl c then fail tokens
  else ⟨tokens, .text delimiter (c :: content)⟩

/-- Puts the character with a code point into a string, if there is one. -/
def pushCode (tokens : List Token) (delimiter : Delimiter) (content : List Char) (value : Nat)
    : ScanState :=
  if value.isValidChar then ⟨tokens, .text delimiter (Char.ofNat value :: content)⟩
  else fail tokens

/-- Reads one character. -/
def step (state : ScanState) (c : Char) : ScanState :=
  let tokens := state.tokens
  match state.mode with
  | .between => begin tokens c
  | .blank run =>
      if c = ' ' || c = '\t' then ⟨tokens, .blank (c :: run)⟩
      else begin (.blank run.reverse :: tokens) c
  | .word run =>
      if inWord c then ⟨tokens, .word (c :: run)⟩ else begin (.word run.reverse :: tokens) c
  | .comment =>
      if c = '\n' || c = '\r' then begin tokens c
      else if isControl c then fail tokens
      else ⟨tokens, .comment⟩
  | .return => if c = '\n' then emit tokens .newline else fail tokens
  | .opening mark =>
      if c = mark then ⟨tokens, .reopening mark⟩ else inText tokens ⟨mark, false⟩ [] c
  | .reopening mark =>
      if c = mark then ⟨tokens, .blockStart mark⟩ else begin (.string "" false :: tokens) c
  | .blockStart mark =>
      if c = '\n' then ⟨tokens, .text ⟨mark, true⟩ []⟩
      else if c = '\r' then ⟨tokens, .blockStartReturn mark⟩
      else inText tokens ⟨mark, true⟩ [] c
  | .blockStartReturn mark =>
      if c = '\n' then ⟨tokens, .text ⟨mark, true⟩ []⟩ else fail tokens
  | .text delimiter content => inText tokens delimiter content c
  | .closing mark content marks =>
      if c = mark then
        if marks < 4 then ⟨tokens, .closing mark content (marks + 1)⟩
        else emitString tokens true (mark :: mark :: content)
      else if 3 ≤ marks then
        let whole := String.ofList (List.replicate (marks - 3) mark ++ content).reverse
        begin (.string whole true :: tokens) c
      else inText tokens ⟨mark, true⟩ (List.replicate marks mark ++ content) c
  | .blockReturn mark content =>
      if c = '\n' then ⟨tokens, .text ⟨mark, true⟩ ('\n' :: '\r' :: content)⟩ else fail tokens
  | .escape delimiter content =>
      match escaped? c, escapeDigits? c with
      | some meant, _ => ⟨tokens, .text delimiter (meant :: content)⟩
      | none, some due => ⟨tokens, .code delimiter content due 0⟩
      | none, none =>
          if !delimiter.block then fail tokens
          else if c = '\n' then ⟨tokens, .fold content true⟩
          else if c = '\r' then ⟨tokens, .foldReturn content⟩
          else if c = ' ' || c = '\t' then ⟨tokens, .fold content false⟩
          else fail tokens
  | .code delimiter content due value =>
      match Json.hexValue? c with
      | none => fail tokens
      | some digit =>
          let value := value * 16 + digit
          if due ≤ 1 then pushCode tokens delimiter content value
          else ⟨tokens, .code delimiter content (due - 1) value⟩
  | .fold content broken =>
      if c = '\n' then ⟨tokens, .fold content true⟩
      else if c = '\r' then ⟨tokens, .foldReturn content⟩
      else if c = ' ' || c = '\t' then ⟨tokens, .fold content broken⟩
      else if broken then inText tokens ⟨'"', true⟩ content c
      else fail tokens
  | .foldReturn content => if c = '\n' then ⟨tokens, .fold content true⟩ else fail tokens
  | .broken => state

/-- The tokens of the whole text: a string cut short by its end is a fault. -/
def finish (state : ScanState) : List Token :=
  let tokens := state.tokens
  match state.mode with
  | .between | .broken | .comment => tokens.reverse
  | .blank run => (.blank run.reverse :: tokens).reverse
  | .word run => (.word run.reverse :: tokens).reverse
  | .reopening _ => (.string "" false :: tokens).reverse
  | .closing mark content marks =>
      if 3 ≤ marks then
        (emitString tokens true (List.replicate (marks - 3) mark ++ content)).tokens.reverse
      else (.fault :: tokens).reverse
  | .return | .opening _ | .blockStart _ | .blockStartReturn _ | .text _ _ | .blockReturn _ _
  | .escape _ _ | .code _ _ _ _ | .fold _ _ | .foldReturn _ => (.fault :: tokens).reverse

end ScanState

/-- The byte order mark, which may stand before everything else. -/
def byteOrderMark : Char := '\uFEFF'

/-- The tokens of a text, up to and including its first fault. -/
def tokens (text : List Char) : List Token :=
  let body := if text.head? = some byteOrderMark then text.tail else text
  (body.foldl ScanState.step ScanState.start).finish

end QueryTree.Toml
