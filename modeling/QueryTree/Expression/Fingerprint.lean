import QueryTree.Digest
import QueryTree.Expression.Basic

/-! Fingerprints of expressions. An expression is first written as bytes in which every node starts
with a tag, every string and every list with its length, and every query that may be missing with a
mark, so different expressions are written differently. The fingerprint is the digest of these
bytes.
-/

namespace QueryTree.Expression

/-- A length as four bytes, the most significant first. -/
def lengthBytes (length : Nat) : List UInt8 :=
  Digest.Sha256.bytesOf (UInt32.ofNat length)

/-- A string: its length in bytes, then its bytes. -/
def textBytes (text : String) : List UInt8 :=
  lengthBytes text.utf8ByteSize ++ text.toUTF8.data.toList

/-- The byte of a combiner. -/
def combinerByte : Combiner → UInt8
  | .and => 0x01
  | .or => 0x02

mutual

/-- The bytes of an expression. -/
def bytes : Expression → List UInt8
  | .boolean combiner members =>
      0x10 :: combinerByte combiner :: (lengthBytes members.length ++ memberBytes members)
  | .property id operator operand =>
      0x11 :: (textBytes id ++ textBytes operator.token ++ textBytes operand)
  | .relationship negated id query =>
      (if negated then 0x13 else 0x12) :: (textBytes id ++ queryBytes query)
  | .name operator operand => 0x14 :: (textBytes operator.token ++ textBytes operand)
  | .insight negated badge => (if negated then 0x16 else 0x15) :: textBytes badge
  | .typeSwitch arms => 0x17 :: (lengthBytes arms.length ++ armsBytes arms)
termination_by structural expression => expression

/-- The bytes of the members of a group. -/
def memberBytes : List Expression → List UInt8
  | [] => []
  | member :: members => member.bytes ++ memberBytes members
termination_by structural members => members

/-- The bytes of a query that may be missing. -/
def queryBytes : Option Expression → List UInt8
  | none => [0x00]
  | some query => 0x01 :: query.bytes
termination_by structural query => query

/-- The bytes of the arms of a type switch. -/
def armsBytes : List TypeArm → List UInt8
  | [] => []
  | arm :: arms => armBytes arm ++ armsBytes arms
termination_by structural arms => arms

/-- The bytes of an arm of a type switch. -/
def armBytes : TypeArm → List UInt8
  | .arm selector query => textBytes selector ++ queryBytes query
termination_by structural arm => arm

end

/-- What the bytes of every fingerprint start with. -/
def fingerprintLabel : String := "exprfp:v1"

/-- The bytes whose digest is the fingerprint. -/
def fingerprintBytes (expression : Expression) : List UInt8 :=
  fingerprintLabel.toUTF8.data.toList ++ expression.bytes

/-- The fingerprint of an expression, as 64 hexadecimal digits. -/
def fingerprint (expression : Expression) : String :=
  Digest.hex (Digest.Sha256.digest expression.fingerprintBytes)

end QueryTree.Expression
