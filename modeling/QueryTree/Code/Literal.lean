import QueryTree.Compile.Fault
import QueryTree.Text

/-! Literals of generated code. A raw operand becomes a literal of a data type or is refused:
numbers and truth values must already have their written form, strings and times are quoted, and
lists of strings have no literals.
-/

namespace QueryTree

/-- A finer reading of an operand than its data type. -/
inductive Stereotype where
  /-- A number of days, not a date. -/
  | timeSpan
deriving DecidableEq

/-- A literal, with the text it was made from. -/
inductive Literal where
  | number (raw : String)
  | truth (value : Bool)
  | text (raw : String)
  | time (raw : String)
deriving DecidableEq

namespace Literal

/-- The mark between the mantissa and the exponent of a number. -/
def isExponentMark (c : Char) : Bool :=
  c = 'e' || c = 'E'

/-- Digits with at most one point, and a digit on at least one side of it. -/
def isMantissa (text : List Char) : Bool :=
  let whole := text.takeWhile (· ≠ '.')
  let fraction := (text.dropWhile (· ≠ '.')).tail
  whole.all Char.isDigit && fraction.all Char.isDigit && !(whole.isEmpty && fraction.isEmpty)

/-- An optional sign and at least one digit. -/
def isExponent (text : List Char) : Bool :=
  let digits :=
    match text with
    | '+' :: rest | '-' :: rest => rest
    | rest => rest
  !digits.isEmpty && digits.all Char.isDigit

/-- A mantissa, with an exponent after a mark or without. -/
def isUnsignedNumber (text : List Char) : Bool :=
  let mantissa := text.takeWhile fun c => !isExponentMark c
  match text.dropWhile fun c => !isExponentMark c with
  | [] => isMantissa mantissa
  | _ :: exponent => isMantissa mantissa && isExponent exponent

/-- Whether a text is a number: an optional sign, digits with an optional point, and an optional
exponent. A number of days may not carry a minus.
-/
def isNumber (allowMinus : Bool) (text : List Char) : Bool :=
  match text with
  | '-' :: rest => allowMinus && isUnsignedNumber rest
  | '+' :: rest => isUnsignedNumber rest
  | rest => isUnsignedNumber rest

/-- The literal of a data type that a raw operand stands for. -/
def read (dataType : DataType) (raw : String) (stereotype : Option Stereotype)
    : Except CompileFault Literal :=
  match dataType with
  | .number =>
      if isNumber (stereotype ≠ some .timeSpan) raw.toList then .ok (.number raw)
      else .error (.invalidLiteral dataType raw)
  | .boolean =>
      if raw = "true" then .ok (.truth true)
      else if raw = "false" then .ok (.truth false)
      else .error (.invalidLiteral dataType raw)
  | .string => .ok (.text raw)
  | .time => .ok (.time raw)
  | .stringList => .error (.unsupportedConstant dataType)

/-- The code of a literal. -/
def code : Literal → String
  | .number raw => raw
  | .truth true => "true"
  | .truth false => "false"
  | .text raw => Text.quote raw
  | .time raw => "Dates.parseIso(" ++ Text.quote raw ++ ")"

end Literal

end QueryTree
