import QueryTree.Expression.Fingerprint

/-! The length and the digits of a fingerprint. A digest has 32 bytes, whatever it is made from, and
each of them is written as two hexadecimal digits in lower case.
-/

namespace QueryTree

namespace Digest

/-- The digits that bytes are written with. -/
def hexDigits : List Char := "0123456789abcdef".toList

theorem hexDigit_mem : ∀ n < 16, Json.hexDigit n ∈ hexDigits := by
  decide

theorem hexPair_mem (byte : UInt8) : ∀ c ∈ hexPair byte, c ∈ hexDigits := by
  have small : byte.toNat < 256 := byte.toNat_lt
  simp only [hexPair, List.forall_mem_cons]
  exact ⟨hexDigit_mem _ (by omega), hexDigit_mem _ (by omega), nofun⟩

theorem length_hex (bytes : List UInt8) : (hex bytes).length = 2 * bytes.length := by
  rw [hex, String.length_ofList]
  induction bytes with
  | nil => rfl
  | cons byte rest ih =>
      rw [List.flatMap_cons, List.length_append, ih, List.length_cons]
      change 2 + 2 * rest.length = 2 * (rest.length + 1)
      omega

theorem hex_mem (bytes : List UInt8) : ∀ c ∈ (hex bytes).toList, c ∈ hexDigits := by
  intro c present
  rw [hex, String.toList_ofList] at present
  obtain ⟨byte, _, inPair⟩ := List.mem_flatMap.mp present
  exact hexPair_mem byte c inPair

/-- A digest is eight words of four bytes. -/
theorem Sha256.length_digest (message : List UInt8) : (digest message).length = 32 :=
  rfl

end Digest

/-- A fingerprint is 64 hexadecimal digits in lower case. -/
theorem Expression.fingerprint_digits (expression : Expression)
    : expression.fingerprint.length = 64
      ∧ ∀ c ∈ expression.fingerprint.toList, c ∈ Digest.hexDigits := by
  constructor
  · rw [fingerprint, Digest.length_hex, Digest.Sha256.length_digest]
  · exact Digest.hex_mem _

end QueryTree
