import QueryTree.Json.Basic

/-! What a number literal of a JSON text stands for. A plain integer of at most 64 bits is kept as
an integer. Every other literal is only required to fit a double: its leading digits, as many as 64
bits hold, times a power of ten must not round past the largest double.
-/

namespace QueryTree.Json.Number

/-- The largest unsigned 64-bit number. -/
def maxUnsigned : Nat := Nat.pow 2 64 - 1

/-- The leading digits of a literal and the power of ten they are multiplied by. -/
structure Magnitude where
  digits : Nat
  exponent : Int
  full : Bool
deriving DecidableEq

namespace Magnitude

/-- No digit read yet. -/
def zero : Magnitude := ⟨0, 0, false⟩

/-- A digit before the point: dropped digits are made up for by the exponent. -/
def addWhole (m : Magnitude) (digit : Nat) : Magnitude :=
  if !m.full && m.digits * 10 + digit ≤ maxUnsigned then
    { m with digits := m.digits * 10 + digit }
  else
    { m with exponent := m.exponent + 1, full := true }

/-- A digit after the point: from the first that does not fit on, digits are dropped. -/
def addFraction (m : Magnitude) (digit : Nat) : Magnitude :=
  if !m.full && m.digits * 10 + digit ≤ maxUnsigned then
    { m with digits := m.digits * 10 + digit, exponent := m.exponent - 1 }
  else
    { m with full := true }

/-- A natural number rounded to the 53 significant bits of a double, a tie to the even neighbour. -/
def nearestDouble (n : Nat) : Nat :=
  if n < Nat.pow 2 53 then n
  else
    let shift := n.log2 - 52
    let unit := Nat.pow 2 shift
    let quotient := n / unit
    let twiceRest := 2 * (n % unit)
    if twiceRest > unit || (twiceRest == unit && quotient % 2 == 1) then (quotient + 1) * unit
    else quotient * unit

/-- The least natural number that rounds past the largest double. -/
def doubleOverflow : Nat := Nat.pow 2 1024 - Nat.pow 2 970

/-- Whether the magnitude, computed as a product of two doubles, is beyond every double. -/
def overflows (m : Magnitude) : Bool :=
  m.digits != 0 && decide (0 ≤ m.exponent)
    && (decide (308 < m.exponent)
      || decide (doubleOverflow
          ≤ nearestDouble m.digits * nearestDouble (Nat.pow 10 m.exponent.toNat)))

end Magnitude

/-- The value of a decimal digit. -/
def digitValue (c : Char) : Nat :=
  c.toNat - '0'.toNat

/-- The number that a run of digits stands for. -/
def ofDigits (digits : List Char) : Nat :=
  digits.foldl (fun n c => n * 10 + digitValue c) 0

/-- A literal taken apart: sign, digits before and after the point, and exponent. -/
structure Parts where
  negative : Bool
  whole : List Char
  fraction : Option (List Char)
  exponent : Option Int
deriving DecidableEq

namespace Parts

/-- The exponent written after its mark: an optional sign and digits. -/
def readExponent : List Char → Int
  | '-' :: digits => -(ofDigits digits : Int)
  | '+' :: digits => ofDigits digits
  | digits => ofDigits digits

/-- Takes a well-formed literal apart. -/
def ofLiteral (literal : List Char) : Parts :=
  let negative := literal.head? == some '-'
  let body := if negative then literal.tail else literal
  let whole := body.takeWhile Char.isDigit
  let afterWhole := body.dropWhile Char.isDigit
  let pointed := afterWhole.head? == some '.'
  let afterPoint := if pointed then afterWhole.tail else afterWhole
  let fraction := if pointed then some (afterPoint.takeWhile Char.isDigit) else none
  let afterFraction := if pointed then afterPoint.dropWhile Char.isDigit else afterPoint
  { negative, whole, fraction
    exponent := if afterFraction.isEmpty then none else some (readExponent afterFraction.tail) }

/-- How large the literal is, the sign apart. -/
def magnitude (parts : Parts) : Magnitude :=
  let whole := parts.whole.foldl (fun m c => m.addWhole (digitValue c)) Magnitude.zero
  let all := (parts.fraction.getD []).foldl (fun m c => m.addFraction (digitValue c))
    { whole with full := false }
  { all with exponent := all.exponent + parts.exponent.getD 0 }

/-- The integer the literal stands for, when it is plain and fits 64 bits; `-0` is no integer. -/
def integer? (parts : Parts) : Option Int :=
  if parts.fraction.isSome || parts.exponent.isSome then none
  else
    let n := ofDigits parts.whole
    if parts.negative then
      if 0 < n ∧ n ≤ Nat.pow 2 63 then some (-(n : Int)) else none
    else if n ≤ maxUnsigned then some n
    else none

end Parts

/-- The number a well-formed literal stands for, or `none` if no double can hold it. -/
def ofLiteral? (literal : List Char) : Option Number :=
  let parts := Parts.ofLiteral literal
  match parts.integer? with
  | some value => some (.integer value)
  | none =>
      if parts.magnitude.overflows then none
      else some (.decimal (String.ofList literal))

end QueryTree.Json.Number
