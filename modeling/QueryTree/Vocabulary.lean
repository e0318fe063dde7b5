import QueryTree.Json.Reader

/-! Closed vocabularies: small sets of words that documents spell with fixed tokens. A word is found
by its token and by nothing else, and a document may also write it as an object whose only field is
the token, holding `null`.
-/

namespace QueryTree

/-- A set of words, in the order they are listed, each with its token. -/
class Vocabulary (α : Type) where
  /-- What a word of the set is called. -/
  noun : String
  /-- All words, in order. -/
  all : List α
  /-- The token of a word. -/
  token : α → String

/-- A text that is not the token of any word. -/
structure UnknownToken where
  noun : String
  text : String
deriving DecidableEq

/-- The wording of an unknown token. -/
def UnknownToken.message (unknown : UnknownToken) : String :=
  "unknown " ++ unknown.noun ++ " '" ++ unknown.text ++ "'"

namespace Vocabulary

variable {α : Type} [Vocabulary α]

/-- The word with the token `text`. -/
def find? (text : String) : Option α :=
  all.find? fun word : α => token word == text

variable (α) in
/-- The word with the token `text`, or the reason there is none. -/
def parse (text : String) : Except UnknownToken α :=
  match (find? text : Option α) with
  | some word => .ok word
  | none => .error ⟨noun α, text⟩

/-- The word as a JSON value. -/
def toJson (word : α) : Json :=
  .string (token word)

/-- Reads a word: its token, or an object of one field named by the token and holding `null`.

A value that is neither a string nor an object with a field is malformed, as there is nothing to
look up. So is an object with anything but a string in the place of its first name, be it a number,
`null` or a bracket: names are strings, and the reader stops there before it looks for a word.
-/
def read : Json.Reader α
  | .string (some text) =>
      match find? text with
      | some word => .ok word
      | none => .error .mismatch
  | .object ((some text, value) :: more) ending =>
      match find? text with
      | none => .error .mismatch
      | some word =>
          match value with
          | .null =>
              if more.isEmpty && ending = .closed then .ok word else .error .malformed
          | value => .error value.misfit
  | _ => .error .malformed

end Vocabulary

end QueryTree
