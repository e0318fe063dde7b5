import QueryTree.Proofs.Code.Frame
import QueryTree.Proofs.Compile.Node
import QueryTree.Proofs.List

/-! Literals are closed. Whatever operand a literal was read from, its code ends where the literal
ends: a string holds no quotation mark or dollar that is not escaped and no backslash that would
escape its own closing mark, and a number holds nothing but the characters of numbers.
-/

namespace QueryTree

namespace Text.Quoted

/-- Whether the characters between two quotation marks are a whole string: reading them one by one,
a backslash together with the character after it, no bare quotation mark or dollar is met, and no
backslash is left at the end.
-/
def isClosed : List Char → Bool
  | [] => true
  | ['\\'] => false
  | '\\' :: _ :: rest => isClosed rest
  | c :: rest => c ≠ '"' && c ≠ '$' && isClosed rest

/-- A character that needs no escape is read by itself. -/
theorem isClosed_cons {c : Char} (plain : ¬(c = '\\' ∨ c = '"' ∨ c = '$')) (rest : List Char)
    : isClosed (c :: rest) = isClosed rest := by
  simp only [not_or] at plain
  rw [isClosed]
  · simp [plain.2.1, plain.2.2]
  · exact fun bare _ => plain.1 bare
  · exact fun _ _ bare _ => plain.1 bare

/-- The escaped characters of any text are a whole string, by induction on the text. -/
theorem isClosed_body (text : List Char) : isClosed (body text) = true := by
  induction text with
  | nil => rfl
  | cons c rest ih =>
      rw [body, List.flatMap_cons, ← body, escape]
      split
      · -- An escape is read as two characters, and the second of them is not looked at.
        simpa [isClosed] using ih
      · rename_i plain
        rw [List.singleton_append, isClosed_cons plain, ih]

end Text.Quoted

namespace Literal

def isNumberChar (c : Char) : Bool :=
  c.isDigit || ['+', '-', '.', 'e', 'E'].contains c

/-- The code of a literal that ends by itself. -/
inductive Closed : String → Prop
  | string {body : List Char} (whole : Text.Quoted.isClosed body = true)
    : Closed (String.ofList ('"' :: (body ++ ['"'])))
  /-- A string handed to the reader of times. -/
  | time {body : List Char} (whole : Text.Quoted.isClosed body = true)
    : Closed ("Dates.parseIso(" ++ String.ofList ('"' :: (body ++ ['"'])) ++ ")")
  | number {text : String} (nonempty : text ≠ "")
    (only : ∀ c ∈ text.toList, isNumberChar c = true)
    : Closed text
  | truth (value : Bool) : Closed (toString value)

theorem isNumberChar_of_isDigit {c : Char} (digit : c.isDigit = true) : isNumberChar c = true := by
  simp [isNumberChar, digit]

/-- A mantissa consists of digits and a point, by its parts before and after the first point. -/
theorem isNumberChar_of_isMantissa {text : List Char} (mantissa : isMantissa text = true)
    {c : Char} (member : c ∈ text)
    : isNumberChar c = true := by
  simp only [isMantissa, Bool.and_eq_true, List.all_eq_true] at mantissa
  obtain ⟨⟨whole, fraction⟩, _⟩ := mantissa
  rcases mem_split (· ≠ '.') member with before | isPoint | after
  · exact isNumberChar_of_isDigit (whole c before)
  · have same : c = '.' := by simpa using isPoint
    subst same
    decide
  · exact isNumberChar_of_isDigit (fraction c after)

theorem isNumberChar_of_isExponent {text : List Char} (exponent : isExponent text = true)
    {c : Char} (member : c ∈ text)
    : isNumberChar c = true := by
  simp only [isExponent, Bool.and_eq_true, List.all_eq_true] at exponent
  obtain ⟨_, digits⟩ := exponent
  split at digits
  · rcases List.mem_cons.mp member with rfl | later
    · decide
    · exact isNumberChar_of_isDigit (digits c later)
  · rcases List.mem_cons.mp member with rfl | later
    · decide
    · exact isNumberChar_of_isDigit (digits c later)
  · exact isNumberChar_of_isDigit (digits c member)

/-- An unsigned number consists of characters of numbers, by its parts around the first mark of an
exponent.
-/
theorem isNumberChar_of_isUnsignedNumber {text : List Char} (number : isUnsignedNumber text = true)
    {c : Char} (member : c ∈ text)
    : isNumberChar c = true := by
  -- Without a mark the whole text is the mantissa, and there is nothing after it.
  have parts
      : isMantissa (text.takeWhile fun c => !isExponentMark c) = true
        ∧ ∀ c ∈ (text.dropWhile fun c => !isExponentMark c).tail, isNumberChar c = true := by
    unfold isUnsignedNumber at number
    split at number
    · rename_i rest
      exact ⟨number, by simp [rest]⟩
    · rename_i mark exponent rest
      obtain ⟨mantissa, isExponent⟩ := Bool.and_eq_true_iff.mp number
      refine ⟨mantissa, fun c member => isNumberChar_of_isExponent isExponent ?_⟩
      simpa [rest] using member
  rcases mem_split (fun c => !isExponentMark c) member with before | isMark | after
  · exact isNumberChar_of_isMantissa parts.1 before
  · have marked : c = 'e' ∨ c = 'E' := by
      simpa only [isExponentMark, Bool.not_eq_eq_eq_not, Bool.not_false, Bool.or_eq_true,
        decide_eq_true_eq] using isMark
    rcases marked with rfl | rfl <;> decide
  · exact parts.2 c after

/-- A number consists of characters of numbers, its sign included. -/
theorem isNumberChar_of_isNumber {allowMinus : Bool} {text : List Char}
    (number : isNumber allowMinus text = true) {c : Char} (member : c ∈ text)
    : isNumberChar c = true := by
  unfold isNumber at number
  split at number
  · rcases List.mem_cons.mp member with rfl | later
    · decide
    · exact isNumberChar_of_isUnsignedNumber (Bool.and_eq_true_iff.mp number).2 later
  · rcases List.mem_cons.mp member with rfl | later
    · decide
    · exact isNumberChar_of_isUnsignedNumber number later
  · exact isNumberChar_of_isUnsignedNumber number member

/-- Whatever operand a literal was read from, its code is closed, by cases on the data type. -/
theorem closed_of_read {dataType : DataType} {raw : String} {stereotype : Option Stereotype}
    {literal : Literal} (read : Literal.read dataType raw stereotype = .ok literal)
    : Closed literal.code := by
  cases dataType with
  | number =>
      simp only [Literal.read] at read
      split at read
      · rename_i number
        obtain rfl := Except.ok.inj read
        refine .number ?_ fun c member => isNumberChar_of_isNumber number member
        -- The empty text is no number: a mantissa has a digit.
        rintro rfl
        simp [isNumber, isUnsignedNumber, isMantissa] at number
      · cases read
  | boolean =>
      simp only [Literal.read] at read
      split at read
      · exact Except.ok.inj read ▸ .truth true
      · split at read
        · exact Except.ok.inj read ▸ .truth false
        · cases read
  | string => exact Except.ok.inj read ▸ .string (Text.Quoted.isClosed_body raw.toList)
  | time => exact Except.ok.inj read ▸ .time (Text.Quoted.isClosed_body raw.toList)
  | stringList => cases read

end Literal

theorem OperandKind.closed_of_render {kind : OperandKind} {operand code : String}
    (rendered : kind.render operand = .ok code)
    : Literal.Closed code := by
  obtain ⟨literal, read, rfl⟩ := map_eq_ok.mp rendered
  exact Literal.closed_of_read read

end QueryTree
