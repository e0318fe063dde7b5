import Mathlib.Data.List.DropRight
import Mathlib.Data.Nat.Digits.Defs
import QueryTree.Json.Number
import QueryTree.Text

/-! The characters of texts: which of them an identifier is made of, what trimming takes away, and
the number that digits stand for.
-/

namespace QueryTree

namespace Text

-----------------------------------------------------------------------------------------
-- Identifiers are what the grammar of names matches
-----------------------------------------------------------------------------------------

/-- A letter of the Latin alphabet, or the underscore. -/
def NameStart (c : Char) : Prop :=
  ('A' ≤ c ∧ c ≤ 'Z') ∨ ('a' ≤ c ∧ c ≤ 'z') ∨ c = '_'

/-- `[A-Za-z_][A-Za-z0-9_]*` -/
def Identifier (text : String) : Prop :=
  ∃ first rest,
    text.toList = first :: rest
    ∧ NameStart first
    ∧ ∀ c ∈ rest, NameStart c ∨ '0' ≤ c ∧ c ≤ '9'

theorem between_iff {low high c : Char}
    : (decide (low.val ≤ c.val) && decide (c.val ≤ high.val)) = true ↔ low ≤ c ∧ c ≤ high := by
  rw [Bool.and_eq_true, decide_eq_true_eq, decide_eq_true_eq]
  exact Iff.rfl

theorem isAlpha_iff {c : Char}
    : c.isAlpha = true ↔ ('A' ≤ c ∧ c ≤ 'Z') ∨ ('a' ≤ c ∧ c ≤ 'z') := by
  have upper : c.isUpper = true ↔ 'A' ≤ c ∧ c ≤ 'Z' := decide_eq_true_iff
  have lower : c.isLower = true ↔ 'a' ≤ c ∧ c ≤ 'z' := between_iff
  rw [← upper, ← lower, ← Bool.or_eq_true]
  exact Iff.rfl

theorem startsIdentifier_iff {c : Char} : startsIdentifier c = true ↔ NameStart c := by
  rw [startsIdentifier, Bool.or_eq_true, isAlpha_iff, decide_eq_true_eq, NameStart, or_assoc]

theorem continuesIdentifier_iff {c : Char}
    : continuesIdentifier c = true ↔ NameStart c ∨ '0' ≤ c ∧ c ≤ '9' := by
  rw [← startsIdentifier_iff, ← between_iff, startsIdentifier, Bool.or_eq_true, or_right_comm,
    ← Bool.or_eq_true, ← Bool.or_eq_true]
  exact Iff.rfl

theorem isIdentifier_iff {text : String} : isIdentifier text = true ↔ Identifier text := by
  unfold isIdentifier Identifier
  split
  · rename_i empty
    simp [empty]
  · rename_i first rest characters
    rw [Bool.and_eq_true, List.all_eq_true, startsIdentifier_iff, characters]
    constructor
    · rintro ⟨starts, continues⟩
      refine ⟨first, rest, rfl, starts, fun c present => ?_⟩
      exact continuesIdentifier_iff.mp (continues c present)
    · rintro ⟨_, _, same, starts, continues⟩
      obtain ⟨rfl, rfl⟩ := List.cons.inj same
      exact ⟨starts, fun c present => continuesIdentifier_iff.mpr (continues c present)⟩

theorem starts_or_continues_of_isIdentifier {text : String} (identifier : isIdentifier text = true)
    {c : Char} (present : c ∈ text.toList)
    : startsIdentifier c = true ∨ continuesIdentifier c = true := by
  obtain ⟨first, rest, characters, starts, continues⟩ := isIdentifier_iff.mp identifier
  rw [characters] at present
  rcases List.mem_cons.mp present with rfl | later
  · exact .inl (startsIdentifier_iff.mpr starts)
  · exact .inr (continuesIdentifier_iff.mpr (continues c later))

-----------------------------------------------------------------------------------------
-- Trimming takes the blanks around a text
-----------------------------------------------------------------------------------------

theorem isBlank_of_isDigit {c : Char} (digit : c.isDigit = true) : isBlank c = false := by
  simp only [Char.isDigit_iff_toNat, Char.reduceToNat] at digit
  simp only [isBlank, Bool.or_eq_false_iff, Bool.and_eq_false_iff, decide_eq_false_iff_not]
  omega

/-- Trimming takes nothing but blanks. -/
theorem exists_blanks_around_trim (text : List Char)
    : ∃ before after,
        text = before ++ trim text ++ after
        ∧ (∀ c ∈ before, isBlank c = true)
        ∧ ∀ c ∈ after, isBlank c = true := by
  refine ⟨text.takeWhile isBlank, (text.dropWhile isBlank).rtakeWhile isBlank, ?_,
    fun _ => List.mem_takeWhile_imp, fun _ => List.mem_rtakeWhile_imp⟩
  have behind
      : trim text ++ (text.dropWhile isBlank).rtakeWhile isBlank = text.dropWhile isBlank :=
    List.rdropWhile_append_rtakeWhile
  rw [List.append_assoc, behind, List.takeWhile_append_dropWhile]

theorem dropWhile_append_of_solid {part rest : List Char} (nonempty : part ≠ [])
    (solid : ∀ c ∈ part, isBlank c = false)
    : (part ++ rest).dropWhile isBlank = part ++ rest := by
  obtain ⟨first, others, rfl⟩ := List.exists_cons_of_ne_nil nonempty
  rw [List.cons_append, List.dropWhile_cons_of_neg]
  simp [solid]

/-- Trimming takes all blanks around a text that has none in it. -/
theorem trim_between {before core after : List Char}
    (blankBefore : ∀ c ∈ before, isBlank c = true) (blankAfter : ∀ c ∈ after, isBlank c = true)
    (nonempty : core ≠ []) (solid : ∀ c ∈ core, isBlank c = false)
    : trim (before ++ core ++ after) = core := by
  have front : (before ++ core ++ after).dropWhile isBlank = core ++ after := by
    rw [List.append_assoc, List.dropWhile_append_of_pos blankBefore,
      dropWhile_append_of_solid nonempty solid]
  have back : (after.reverse ++ core.reverse).dropWhile isBlank = core.reverse := by
    rw [List.dropWhile_append_of_pos (by simpa using blankAfter), ← List.append_nil core.reverse,
      dropWhile_append_of_solid (by simpa using nonempty) (by simpa using solid)]
  rw [trim, front, List.reverse_append, back, List.reverse_reverse]

end Text

/-- Digits are the decimal notation of the number they are read as. -/
theorem Json.Number.ofDigits_eq (digits : List Char)
    : ofDigits digits = Nat.ofDigits 10 (digits.map digitValue).reverse := by
  rw [Nat.ofDigits_eq_foldr, List.foldr_reverse, List.foldl_map, ofDigits]
  congr 1
  funext n c
  rw [Nat.mul_comm, Nat.add_comm]
  rfl

end QueryTree
