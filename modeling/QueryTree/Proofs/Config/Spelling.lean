import QueryTree.Config.Basic
import QueryTree.Proofs.Text

/-! How the values of a configuration are written. A subject is an identifier. A depth in a variable
is a whole number: the text is trimmed, a plus is cut off, and what is left are digits.
-/

namespace QueryTree

namespace Config

/-- The text is a whole number: digits, with a plus in front of them or without, and blanks around
them. The number fits 64 bits.
-/
def WholeNumber (text : String) (number : Nat) : Prop :=
  ∃ before sign digits after : List Char,
    text.toList = before ++ (sign ++ digits) ++ after
    ∧ (∀ c ∈ before, Text.isBlank c = true)
    ∧ (sign = [] ∨ sign = ['+'])
    ∧ digits ≠ []
    ∧ (∀ c ∈ digits, c.isDigit = true)
    ∧ (∀ c ∈ after, Text.isBlank c = true)
    ∧ number = Nat.ofDigits 10 (digits.map Json.Number.digitValue).reverse
    ∧ number < 2 ^ 64

/-- A plus in front of digits is what is taken away before they are read. -/
theorem exists_sign_iff {text digits : List Char} (nonempty : digits ≠ [])
    (each : ∀ c ∈ digits, c.isDigit = true)
    : (∃ sign, (sign = [] ∨ sign = ['+']) ∧ text = sign ++ digits)
      ↔ (if text.head? = some '+' then text.tail else text) = digits := by
  constructor
  · rintro ⟨sign, rfl | rfl, rfl⟩
    · obtain ⟨first, rest, rfl⟩ := List.exists_cons_of_ne_nil nonempty
      refine if_neg fun plus => ?_
      obtain rfl := Option.some.inj plus
      exact absurd (each '+' List.mem_cons_self) (by decide)
    · rfl
  · rintro rfl
    split
    · rename_i plus
      exact ⟨['+'], .inr rfl, (List.cons_head?_tail plus).symm⟩
    · exact ⟨[], .inl rfl, rfl⟩

/-- What a text is trimmed to decides whether it is read. -/
theorem wholeNumber?_eq_some_iff_trim {text : String} {number : Nat}
    : wholeNumber? text = some number
      ↔ ∃ digits : List Char,
          digits ≠ []
          ∧ (∀ c ∈ digits, c.isDigit = true)
          ∧ (∃ sign, (sign = [] ∨ sign = ['+']) ∧ Text.trim text.toList = sign ++ digits)
          ∧ number = Json.Number.ofDigits digits
          ∧ number ≤ Json.Number.maxUnsigned := by
  have proper (digits : List Char)
      : ¬(digits.isEmpty || !digits.all Char.isDigit) = true
        ↔ digits ≠ [] ∧ ∀ c ∈ digits, c.isDigit = true := by
    simp
  rw [wholeNumber?, Option.ite_none_left_eq_some, Option.filter_eq_some_iff, proper]
  constructor
  · rintro ⟨⟨nonempty, each⟩, read, fits⟩
    exact ⟨_, nonempty, each, (exists_sign_iff nonempty each).mpr rfl,
      (Option.some.inj read).symm, of_decide_eq_true fits⟩
  · rintro ⟨digits, nonempty, each, signed, rfl, fits⟩
    rw [(exists_sign_iff nonempty each).mp signed]
    exact ⟨⟨nonempty, each⟩, rfl, decide_eq_true fits⟩

theorem wholeNumber?_eq_some {text : String} {number : Nat}
    : wholeNumber? text = some number ↔ WholeNumber text number := by
  rw [wholeNumber?_eq_some_iff_trim]
  constructor
  · rintro ⟨digits, nonempty, each, ⟨sign, signed, trimmed⟩, rfl, fits⟩
    obtain ⟨before, after, whole, blankBefore, blankAfter⟩ :=
      Text.exists_blanks_around_trim text.toList
    exact ⟨before, sign, digits, after, trimmed ▸ whole, blankBefore, signed, nonempty, each,
      blankAfter, Json.Number.ofDigits_eq digits, Nat.lt_of_le_pred (by decide) fits⟩
  · rintro ⟨before, sign, digits, after, whole, blankBefore, signed, nonempty, each, blankAfter,
      rfl, fits⟩
    refine ⟨digits, nonempty, each, ⟨sign, signed, ?_⟩, (Json.Number.ofDigits_eq digits).symm,
      Nat.le_pred_of_lt fits⟩
    rw [whole]
    refine Text.trim_between blankBefore blankAfter (by simp [nonempty]) fun c present => ?_
    rcases List.mem_append.mp present with inSign | inDigits
    · rcases signed with rfl | rfl
      · cases inSign
      · obtain rfl := List.mem_singleton.mp inSign
        decide
    · exact Text.isBlank_of_isDigit (each c inDigits)

end Config

end QueryTree
