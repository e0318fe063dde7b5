import QueryTree.Expression.Fingerprint
import QueryTree.Proofs.Expression.Induction
import QueryTree.Proofs.List

/-! The bytes of an expression show where they end: they are not the start of the bytes of any other
expression, so different expressions have different bytes. Four bytes are kept for a length, so this
is said of expressions whose strings and lists are no longer than four bytes can tell.
-/

namespace QueryTree.Expression

-----------------------------------------------------------------------------------------
-- What it is for bytes to show where they end
-----------------------------------------------------------------------------------------

/-- The number of all words of four bytes, two to the power of 32: lengths from here on do not fit.
-/
def lengthBound : Nat := UInt32.size

mutual

/-- The lengths of all lists of an expression, and of all its strings in bytes. -/
def lengths : Expression → List Nat
  | .boolean _ members => members.length :: memberLengths members
  | .property id _ operand => [id.utf8ByteSize, operand.utf8ByteSize]
  | .relationship _ id query => id.utf8ByteSize :: queryLengths query
  | .name _ operand => [operand.utf8ByteSize]
  | .insight _ badge => [badge.utf8ByteSize]
  | .typeSwitch arms => arms.length :: armsLengths arms
termination_by structural expression => expression

def memberLengths : List Expression → List Nat
  | [] => []
  | member :: rest => member.lengths ++ memberLengths rest
termination_by structural members => members

def queryLengths : Option Expression → List Nat
  | none => []
  | some query => query.lengths
termination_by structural query => query

def armsLengths : List TypeArm → List Nat
  | [] => []
  | arm :: rest => armLengths arm ++ armsLengths rest
termination_by structural arms => arms

def armLengths : TypeArm → List Nat
  | .arm selector query => selector.utf8ByteSize :: queryLengths query
termination_by structural arm => arm

end

/-- Every length can be written in four bytes. -/
def Writable (lengths : List Nat) : Prop :=
  ∀ length ∈ lengths, length < lengthBound

instance (lengths : List Nat) : Decidable (Writable lengths) :=
  inferInstanceAs (Decidable (∀ length ∈ lengths, length < lengthBound))

/-- The bytes of a value show where they end: no other value has bytes that come first in the same
text, whatever follows.
-/
def Delimited {α : Type} (bytes : α → List UInt8) (lengths : α → List Nat) (value : α) : Prop :=
  ∀ other, Writable (lengths value) → Writable (lengths other) →
    ∀ rest more, bytes value ++ rest = bytes other ++ more → value = other ∧ rest = more

section parts

-----------------------------------------------------------------------------------------
-- Lengths, strings, operators and queries: what the bytes of a node are put together from
-----------------------------------------------------------------------------------------

theorem bytesOf_injective {left right : UInt32}
    (same : Digest.Sha256.bytesOf left = Digest.Sha256.bytesOf right)
    : left = right := by
  -- Each byte is the rest of a quotient, and the four of them together are the whole number.
  have eight : UInt32.toNat 8 % 32 = 8 := rfl
  have sixteen : UInt32.toNat 16 % 32 = 16 := rfl
  have twentyFour : UInt32.toNat 24 % 32 = 24 := rfl
  simp only [Digest.Sha256.bytesOf, List.cons.injEq, and_true, ← UInt8.toNat_inj,
    UInt32.toNat_toUInt8, UInt32.toNat_shiftRight, Nat.shiftRight_eq_div_pow, eight, sixteen,
    twentyFour] at same
  have leftBound := left.toNat_lt
  have rightBound := right.toNat_lt
  apply UInt32.toNat_inj.mp
  omega

theorem lengthBytes_inj {left right : Nat} (leftFits : left < lengthBound)
    (rightFits : right < lengthBound) {rest more : List UInt8}
    (same : lengthBytes left ++ rest = lengthBytes right ++ more)
    : left = right ∧ rest = more := by
  obtain ⟨first, after⟩ := List.append_inj same rfl
  have words := congrArg UInt32.toNat (bytesOf_injective first)
  simp only [UInt32.toNat_ofNat'] at words
  simp only [lengthBound, UInt32.size] at leftFits rightFits
  exact ⟨by omega, after⟩

theorem combinerByte_inj {left right : Combiner} (same : combinerByte left = combinerByte right)
    : left = right := by
  cases left <;> cases right <;> simp_all [combinerByte]

theorem markByte_inj {left right : Bool} {yes no : UInt8} (differ : yes ≠ no)
    (same : (if left then yes else no) = if right then yes else no)
    : left = right := by
  cases left <;> cases right <;> simp_all

theorem textBytes_inj {left right : String} (leftFits : left.utf8ByteSize < lengthBound)
    (rightFits : right.utf8ByteSize < lengthBound) {rest more : List UInt8}
    (same : textBytes left ++ rest = textBytes right ++ more)
    : left = right ∧ rest = more := by
  simp only [textBytes, List.append_assoc] at same
  obtain ⟨length, after⟩ := lengthBytes_inj leftFits rightFits same
  obtain ⟨chars, ends⟩ := List.append_inj after length
  refine ⟨?_, ends⟩
  exact String.toByteArray_inj.mp (ByteArray.ext (Array.toList_inj.mp chars))

theorem token_inj {left right : Operator} (same : left.token = right.token) : left = right := by
  have known (operator : Operator) : Vocabulary.find? operator.token = some operator := by
    cases operator <;> rfl
  have found := known left
  rw [same, known right] at found
  exact (Option.some.inj found).symm

theorem tokenBytes_inj {left right : Operator} {rest more : List UInt8}
    (same : textBytes left.token ++ rest = textBytes right.token ++ more)
    : left = right ∧ rest = more := by
  have short (operator : Operator) : operator.token.utf8ByteSize < lengthBound := by
    cases operator <;> decide
  obtain ⟨token, ends⟩ := textBytes_inj (short left) (short right) same
  exact ⟨token_inj token, ends⟩

theorem delimited_query {query : Option Expression}
    (below : ∀ inner, query = some inner → Delimited bytes lengths inner)
    : Delimited queryBytes queryLengths query := by
  intro other fits otherFits rest more same
  cases query with
  | none =>
      cases other with
      | none => exact ⟨rfl, by simpa [queryBytes] using same⟩
      | some otherInner => simp [queryBytes] at same
  | some inner =>
      cases other with
      | none => simp [queryBytes] at same
      | some otherInner =>
          simp only [queryBytes, List.cons_append, List.cons.injEq, true_and] at same
          obtain ⟨rfl, after⟩ := below inner rfl _ fits otherFits rest more same
          exact ⟨rfl, after⟩

-----------------------------------------------------------------------------------------
-- The bytes of a list are those of its values one after the other, and so are the lengths
-----------------------------------------------------------------------------------------

theorem memberBytes_eq (members : List Expression) : memberBytes members = members.flatMap bytes :=
  eq_flatMap rfl (fun _ _ => rfl) members

theorem memberLengths_eq (members : List Expression)
    : memberLengths members = members.flatMap lengths :=
  eq_flatMap rfl (fun _ _ => rfl) members

theorem armsBytes_eq (arms : List TypeArm) : armsBytes arms = arms.flatMap armBytes :=
  eq_flatMap rfl (fun _ _ => rfl) arms

theorem armsLengths_eq (arms : List TypeArm) : armsLengths arms = arms.flatMap armLengths :=
  eq_flatMap rfl (fun _ _ => rfl) arms

/-- Values of a list show together where they end if each of them does and their number is known, by
induction on the list.
-/
theorem delimited_list {α : Type} {bytes : α → List UInt8} {lengths : α → List Nat}
    {values : List α} (each : ∀ value ∈ values, Delimited bytes lengths value)
    {others : List α} (count : values.length = others.length)
    (fits : Writable (values.flatMap lengths)) (otherFits : Writable (others.flatMap lengths))
    {rest more : List UInt8}
    (same : values.flatMap bytes ++ rest = others.flatMap bytes ++ more)
    : values = others ∧ rest = more := by
  induction values generalizing others with
  | nil =>
      cases others with
      | nil => exact ⟨rfl, same⟩
      | cons other others => cases count
  | cons value values ih =>
      cases others with
      | nil => cases count
      | cons other others =>
          simp only [List.flatMap_cons, List.append_assoc] at same fits otherFits
          obtain ⟨fitsHere, fitsAfter⟩ := List.forall_mem_append.mp fits
          obtain ⟨otherHere, otherAfter⟩ := List.forall_mem_append.mp otherFits
          obtain ⟨rfl, after⟩ :=
            each value List.mem_cons_self other fitsHere otherHere _ _ same
          obtain ⟨rfl, ends⟩ :=
            ih (fun later present => each later (List.mem_cons_of_mem _ present))
              (Nat.succ.inj count) fitsAfter otherAfter after
          exact ⟨rfl, ends⟩

theorem delimited_arm {selector : String} {query : Option Expression}
    (below : ∀ inner, query = some inner → Delimited bytes lengths inner)
    : Delimited armBytes armLengths (.arm selector query) := by
  intro other fits otherFits rest more same
  obtain ⟨otherSelector, otherQuery⟩ := other
  simp only [armBytes, List.append_assoc] at same
  obtain ⟨text, fits⟩ := List.forall_mem_cons.mp fits
  obtain ⟨otherText, otherQueryFits⟩ := List.forall_mem_cons.mp otherFits
  obtain ⟨rfl, after⟩ := textBytes_inj text otherText same
  obtain ⟨rfl, ends⟩ := delimited_query below _ fits otherQueryFits _ _ after
  exact ⟨rfl, ends⟩

end parts

-----------------------------------------------------------------------------------------
-- Whole expressions
-----------------------------------------------------------------------------------------

/-- The bytes of every expression show where they end, by induction on the expression: the first
byte tells the kind of the node, so the parts of two nodes are compared one by one.
-/
theorem delimited_bytes (expression : Expression) : Delimited bytes lengths expression := by
  induction expression with
  | boolean combiner members ih =>
      intro other fits otherFits rest more same
      cases other with
      | boolean otherCombiner others =>
          simp only [bytes, List.cons_append, List.append_assoc, List.cons.injEq, true_and] at same
          obtain ⟨mark, same⟩ := same
          obtain ⟨count, below⟩ := List.forall_mem_cons.mp fits
          obtain ⟨otherCount, otherBelow⟩ := List.forall_mem_cons.mp otherFits
          obtain ⟨length, after⟩ := lengthBytes_inj count otherCount same
          rw [memberBytes_eq, memberBytes_eq] at after
          rw [memberLengths_eq] at below otherBelow
          obtain ⟨rfl, ends⟩ := delimited_list ih length below otherBelow after
          exact ⟨by rw [combinerByte_inj mark], ends⟩
      | _ => grind [bytes]
  | property id operator operand =>
      intro other fits otherFits rest more same
      cases other with
      | property otherId otherOperator otherOperand =>
          simp only [bytes, List.cons_append, List.append_assoc, List.cons.injEq, true_and] at same
          simp only [lengths, Writable, List.forall_mem_cons] at fits otherFits
          obtain ⟨rfl, after⟩ := textBytes_inj fits.1 otherFits.1 same
          obtain ⟨rfl, last⟩ := tokenBytes_inj after
          obtain ⟨rfl, ends⟩ := textBytes_inj fits.2.1 otherFits.2.1 last
          exact ⟨rfl, ends⟩
      | _ => grind [bytes]
  | relationship negated id query ih =>
      intro other fits otherFits rest more same
      cases other with
      | relationship otherNegated otherId otherQuery =>
          simp only [bytes, List.cons_append, List.append_assoc, List.cons.injEq] at same
          obtain ⟨mark, same⟩ := same
          obtain ⟨text, below⟩ := List.forall_mem_cons.mp fits
          obtain ⟨otherText, otherBelow⟩ := List.forall_mem_cons.mp otherFits
          obtain ⟨rfl, after⟩ := textBytes_inj text otherText same
          obtain ⟨rfl, ends⟩ := delimited_query ih _ below otherBelow _ _ after
          exact ⟨by rw [markByte_inj (by decide) mark], ends⟩
      | _ => grind [bytes]
  | name operator operand =>
      intro other fits otherFits rest more same
      cases other with
      | name otherOperator otherOperand =>
          simp only [bytes, List.cons_append, List.append_assoc, List.cons.injEq, true_and] at same
          obtain ⟨rfl, after⟩ := tokenBytes_inj same
          obtain ⟨rfl, ends⟩ :=
            textBytes_inj (fits _ List.mem_cons_self) (otherFits _ List.mem_cons_self) after
          exact ⟨rfl, ends⟩
      | _ => grind [bytes]
  | insight negated badge =>
      intro other fits otherFits rest more same
      cases other with
      | insight otherNegated otherBadge =>
          simp only [bytes, List.cons_append, List.cons.injEq] at same
          obtain ⟨mark, same⟩ := same
          obtain ⟨rfl, ends⟩ :=
            textBytes_inj (fits _ List.mem_cons_self) (otherFits _ List.mem_cons_self) same
          exact ⟨by rw [markByte_inj (by decide) mark], ends⟩
      | _ => grind [bytes]
  | typeSwitch arms ih =>
      intro other fits otherFits rest more same
      cases other with
      | typeSwitch others =>
          simp only [bytes, List.cons_append, List.append_assoc, List.cons.injEq, true_and] at same
          obtain ⟨count, below⟩ := List.forall_mem_cons.mp fits
          obtain ⟨otherCount, otherBelow⟩ := List.forall_mem_cons.mp otherFits
          obtain ⟨length, after⟩ := lengthBytes_inj count otherCount same
          rw [armsBytes_eq, armsBytes_eq] at after
          rw [armsLengths_eq] at below otherBelow
          have each (arm : TypeArm) (present : arm ∈ arms) : Delimited armBytes armLengths arm := by
            obtain ⟨selector, query⟩ := arm
            exact delimited_arm fun inner found => ih selector inner (found ▸ present)
          obtain ⟨rfl, ends⟩ := delimited_list each length below otherBelow after
          exact ⟨rfl, ends⟩
      | _ => grind [bytes]

/-- Of two expressions whose lengths can be written, the bytes of one are the start of the bytes of
the other only if they are the same expression.
-/
theorem eq_of_bytes_start {left right : Expression} (leftFits : Writable left.lengths)
    (rightFits : Writable right.lengths) (start : left.bytes <+: right.bytes)
    : left = right := by
  obtain ⟨rest, same⟩ := start
  have apart := delimited_bytes left right leftFits rightFits rest []
  exact (apart (by rw [same, List.append_nil])).1

/-- It matters where one string ends and the next begins: a property test has the bytes of the test
it is equal to, but not those of a test that divides the same characters differently.
-/
theorem divided_texts_have_other_bytes
    : Writable (property "ab" .equal "c").lengths
      ∧ Writable (property ("a" ++ "b") .equal "c").lengths
      ∧ (property "ab" .equal "c").bytes <+: (property ("a" ++ "b") .equal "c").bytes
      ∧ property "ab" .equal "c" = property ("a" ++ "b") .equal "c"
      ∧ ¬(property "ab" .equal "c").bytes <+: (property "a" .equal "bc").bytes := by
  have fits : Writable (property "ab" .equal "c").lengths := by decide
  have joinedFits : Writable (property ("a" ++ "b") .equal "c").lengths := by decide
  have start : (property "ab" .equal "c").bytes <+: (property ("a" ++ "b") .equal "c").bytes := by
    decide
  refine ⟨fits, joinedFits, start, eq_of_bytes_start fits joinedFits start, fun other => ?_⟩
  exact absurd (eq_of_bytes_start fits (by decide) other) (by simp)

end QueryTree.Expression
