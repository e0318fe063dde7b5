import QueryTree.Json.Number
import QueryTree.Toml.Basic
import QueryTree.Toml.Scanner

/-! Scalars that are written without quotation marks: integers in four bases, floats, truth values,
dates and times. Integers are read; of the others only the form is checked. The form of an integer
is wider than the numbers: no digit need follow the prefix of a base, and of the groups that
underscores make only the ends are looked at. Such a scalar may stand where its value is not needed.
-/

namespace QueryTree.Toml.Scalar

/-- The value of a digit of a base. -/
def digit? (base : Nat) (c : Char) : Option Nat :=
  (Json.hexValue? c).filter (· < base)

/-- Goes on with a number after a digit; an underscore may stand before each further digit. -/
def moreDigits? (base value : Nat) : List Char → Option Nat
  | [] => some value
  | '_' :: c :: rest =>
      match digit? base c with
      | some digit => moreDigits? base (value * base + digit) rest
      | none => none
  | c :: rest =>
      match digit? base c with
      | some digit => moreDigits? base (value * base + digit) rest
      | none => none

/-- The number that a run of digits stands for. -/
def digits? (base : Nat) : List Char → Option Nat
  | [] => none
  | c :: rest => (digit? base c).bind fun digit => moreDigits? base digit rest

/-- A decimal number, which has no zero in front of other digits. -/
def decimal? : List Char → Option Nat
  | '0' :: _ :: _ => none
  | text => digits? 10 text

/-- Whether a character is a hexadecimal digit. -/
def isHexDigit (c : Char) : Bool :=
  (Json.hexValue? c).isSome

/-- Whether every underscore has a hexadecimal digit on either side. -/
def underscoresInside : List Char → Bool
  | [] => true
  | [c] => c ≠ '_'
  | left :: right :: rest =>
      (left ≠ '_' || isHexDigit right) && (right ≠ '_' || isHexDigit left)
        && underscoresInside (right :: rest)

/-- The digits and underscores that a text starts with, and what follows them. -/
def splitDigits (text : List Char) : List Char × List Char :=
  text.span fun c => c.isDigit || c = '_'

/-- Whether a text has a zero in front of other digits. -/
def hasLeadingZero (text : List Char) : Bool :=
  text.head? = some '0' && 1 < ((splitDigits text).1.filter Char.isDigit).length

/-- Whether a character makes a number with groups something else than an integer. -/
def endsGroups (c : Char) : Bool :=
  c = ' ' || c = '.' || c = 'e' || c = 'E'

/-- Whether a text has the form of an integer in groups: digits, and then anything behind
underscores, as long as their neighbours are hexadecimal digits.
-/
def isGrouped (text : List Char) : Bool :=
  text.head?.any Char.isDigit && (text.dropWhile Char.isDigit).head? = some '_'
    && !hasLeadingZero text && !text.any endsGroups && underscoresInside text

/-- A decimal integer, which may have a number or only the form of one. -/
def decimalInteger? (negative : Bool) (text : List Char) : Option Value :=
  match decimal? text with
  | some n => some (.integer (if negative then -Int.ofNat n else Int.ofNat n))
  | none => if isGrouped text then some .other else none

/-- An integer of a base, after its prefix. -/
def prefixedInteger? (base : Nat) : List Char → Option Value
  | [] => some .other
  | text => (digits? base text).map fun n => .integer (Int.ofNat n)

/-- The integer that a word stands for. Only decimal integers have a sign. -/
def integer? : List Char → Option Value
  | '0' :: 'x' :: text => prefixedInteger? 16 text
  | '0' :: 'o' :: text => prefixedInteger? 8 text
  | '0' :: 'b' :: text => prefixedInteger? 2 text
  | '+' :: text => decimalInteger? false text
  | '-' :: text => decimalInteger? true text
  | text => decimalInteger? false text

/-- A text without the sign in front of it. -/
def unsigned : List Char → List Char
  | '+' :: text | '-' :: text => text
  | text => text

/-- An exponent with its mark, or nothing. -/
def isExponent : List Char → Bool
  | [] => true
  | 'e' :: text | 'E' :: text => (digits? 10 (unsigned text)).isSome
  | _ => false

/-- Whether a word is a float: digits with a fraction, an exponent or both, or no finite number. -/
def isFloat (text : List Char) : Bool :=
  let body := unsigned text
  let (whole, rest) := splitDigits body
  body = ['i', 'n', 'f'] || body = ['n', 'a', 'n']
    || (decimal? whole).isSome &&
      match rest with
      | [] => false
      | '.' :: rest =>
          let (fraction, rest) := splitDigits rest
          (digits? 10 fraction).isSome && isExponent rest
      | rest => isExponent rest

/-- The number that two digits stand for, and what follows them. -/
def twoDigits? : List Char → Option (Nat × List Char)
  | tens :: ones :: rest =>
      match digit? 10 tens, digit? 10 ones with
      | some tens, some ones => some (tens * 10 + ones, rest)
      | _, _ => none
  | _ => none

/-- How many days a month has. -/
def daysIn (year month : Nat) : Nat :=
  if month = 2 then
    if year % 4 = 0 && (year % 100 ≠ 0 || year % 400 = 0) then 29 else 28
  else if month = 4 || month = 6 || month = 9 || month = 11 then 30
  else 31

/-- Whether a text is a date: four, two and two digits with dashes, and a day of the calendar. -/
def isDate (text : List Char) : Bool :=
  match twoDigits? text with
  | none => false
  | some (century, rest) =>
      match twoDigits? rest with
      | some (year, '-' :: rest) =>
          match twoDigits? rest with
          | some (month, '-' :: rest) =>
              match twoDigits? rest with
              | some (day, []) =>
                  1 ≤ month && month ≤ 12 && 1 ≤ day && day ≤ daysIn (century * 100 + year) month
              | _ => false
          | _ => false
      | _ => false

/-- The hours and minutes that a text starts with, and what follows them. -/
def clock? (text : List Char) : Option (List Char) :=
  match twoDigits? text with
  | some (hour, ':' :: rest) =>
      match twoDigits? rest with
      | some (minute, rest) => if hour ≤ 23 && minute ≤ 59 then some rest else none
      | none => none
  | _ => none

/-- A distance from universal time, or nothing. -/
def isOffset : List Char → Bool
  | [] | ['Z'] | ['z'] => true
  | '+' :: text | '-' :: text => clock? text = some []
  | _ => false

/-- What follows the time of day, where the seconds and their fraction may be left out. -/
def afterTime? (text : List Char) : Option (List Char) :=
  match clock? text with
  | some (':' :: rest) =>
      match twoDigits? rest with
      | some (second, '.' :: rest) =>
          let (fraction, rest) := rest.span Char.isDigit
          if second ≤ 60 && !fraction.isEmpty then some rest else none
      | some (second, rest) => if second ≤ 60 then some rest else none
      | none => none
  | after => after

/-- What stands between a date and the time after it. -/
def isDateMark (c : Char) : Bool :=
  c = 'T' || c = 't' || c = ' '

/-- Whether a text is a date, a time, or a date with a time and possibly an offset. -/
def isMoment (text : List Char) : Bool :=
  isDate text || afterTime? text = some []
    || isDate (text.take 10) &&
      match text.drop 10 with
      | mark :: time => isDateMark mark && (afterTime? time).any isOffset
      | [] => false

/-- The value that an unquoted scalar stands for. -/
def read? (text : List Char) : Option Value :=
  match integer? text with
  | some value => some value
  | none =>
      if text = ['t', 'r', 'u', 'e'] || text = ['f', 'a', 'l', 's', 'e'] || isFloat text
          || isMoment text then some .other
      else none

end QueryTree.Toml.Scalar
