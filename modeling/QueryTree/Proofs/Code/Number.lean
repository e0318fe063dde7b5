import Mathlib.Computability.RegularExpressions
import QueryTree.Code.Literal
import QueryTree.Proofs.List

/-! The grammar of numbers, written as a regular expression. A number is checked by cutting its text
at the first mark of an exponent and the mantissa at its first point; every way to match the grammar
has its marks where the text is cut, so the check accepts the texts of the grammar and no others.
-/

namespace QueryTree.Literal

-----------------------------------------------------------------------------------------
-- The grammar of numbers, and what its parts match
-----------------------------------------------------------------------------------------

namespace Grammar

/-- One of the given characters. -/
def oneOf (chars : List Char) : RegularExpression Char :=
  (chars.map .char).sum

/-- What a pattern matches, or nothing. -/
def optional (pattern : RegularExpression Char) : RegularExpression Char :=
  1 + pattern

def digit : RegularExpression Char :=
  oneOf ['0', '1', '2', '3', '4', '5', '6', '7', '8', '9']

/-- At least one digit. -/
def digits : RegularExpression Char :=
  digit * digit.star

def sign : RegularExpression Char :=
  oneOf ['+', '-']

def point : RegularExpression Char :=
  .char '.'

/-- Digits, possibly with a point and more digits after them, or digits after a point. -/
def mantissa : RegularExpression Char :=
  digits * optional (point * optional digits) + point * digits

/-- A mark, possibly a sign, and digits. -/
def exponent : RegularExpression Char :=
  oneOf ['e', 'E'] * (optional sign * digits)

def unsigned : RegularExpression Char :=
  mantissa * optional exponent

/-- All numbers: `[+-]?(digits(.digits?)?|.digits)([eE][+-]?digits)?` -/
def numeral : RegularExpression Char :=
  optional sign * unsigned

theorem mem_oneOf {chars text : List Char}
    : text ∈ (oneOf chars).matches' ↔ ∃ c ∈ chars, text = [c] := by
  induction chars with
  | nil => exact ⟨False.elim, fun ⟨_, absent, _⟩ => absurd absent List.not_mem_nil⟩
  | cons first rest ih =>
      rw [oneOf] at ih ⊢
      rw [List.map_cons, List.sum_cons, RegularExpression.matches'_add, Language.mem_add, ih,
        List.exists_mem_cons_iff]
      exact Iff.rfl

theorem mem_optional {pattern : RegularExpression Char} {text : List Char}
    : text ∈ (optional pattern).matches' ↔ text = [] ∨ text ∈ pattern.matches' :=
  Iff.rfl

theorem mem_mul {first second : RegularExpression Char} {text : List Char}
    : text ∈ (first * second).matches'
      ↔ ∃ before after,
          text = before ++ after ∧ before ∈ first.matches' ∧ after ∈ second.matches' := by
  rw [RegularExpression.matches'_mul, Language.mem_mul]
  constructor
  · rintro ⟨before, matched, after, also, rfl⟩
    exact ⟨before, after, rfl, matched, also⟩
  · rintro ⟨before, after, rfl, matched, also⟩
    exact ⟨before, matched, after, also, rfl⟩

theorem mem_digit {text : List Char}
    : text ∈ digit.matches' ↔ ∃ c, c.isDigit = true ∧ text = [c] := by
  have listed (c : Char)
      : c ∈ ['0', '1', '2', '3', '4', '5', '6', '7', '8', '9'] ↔ c.isDigit = true := by
    simp only [List.mem_cons, List.not_mem_nil, or_false, ← Char.toNat_inj,
      Char.isDigit_iff_toNat, Char.reduceToNat]
    omega
  simp only [digit, mem_oneOf, listed]

/-- Digits are matched by a text of digits that is not empty. -/
theorem mem_digits {text : List Char}
    : text ∈ digits.matches' ↔ text ≠ [] ∧ ∀ c ∈ text, c.isDigit = true := by
  rw [digits, mem_mul]
  constructor
  · rintro ⟨before, after, rfl, first, more⟩
    obtain ⟨c, isDigit, rfl⟩ := mem_digit.mp first
    obtain ⟨parts, rfl, each⟩ := Language.mem_kstar.mp more
    refine ⟨by simp, List.forall_mem_cons.mpr ⟨isDigit, fun d present => ?_⟩⟩
    obtain ⟨part, listed, inside⟩ := List.mem_flatten.mp present
    obtain ⟨only, isDigit, rfl⟩ := mem_digit.mp (each part listed)
    exact List.mem_singleton.mp inside ▸ isDigit
  · rintro ⟨nonempty, each⟩
    obtain ⟨first, rest, rfl⟩ := List.exists_cons_of_ne_nil nonempty
    obtain ⟨isDigit, others⟩ := List.forall_mem_cons.mp each
    refine ⟨[first], rest, rfl, mem_digit.mpr ⟨first, isDigit, rfl⟩, ?_⟩
    have parted : rest = (rest.map fun c => [c]).flatten := by
      rw [← List.flatMap_def, List.flatMap_singleton']
    refine Language.mem_kstar.mpr ⟨rest.map fun c => [c], parted, fun part present => ?_⟩
    obtain ⟨c, inside, rfl⟩ := List.mem_map.mp present
    exact mem_digit.mpr ⟨c, others c inside, rfl⟩

/-- A mantissa is matched by digits, or by a point with a digit on at least one side of it. -/
theorem mem_mantissa {text : List Char}
    : text ∈ mantissa.matches'
      ↔ (text ≠ [] ∧ ∀ c ∈ text, c.isDigit = true)
        ∨ ∃ whole fraction,
            text = whole ++ '.' :: fraction
            ∧ (∀ c ∈ whole, c.isDigit = true)
            ∧ (∀ c ∈ fraction, c.isDigit = true)
            ∧ (whole ≠ [] ∨ fraction ≠ []) := by
  rw [mantissa, RegularExpression.matches'_add, Language.mem_add, mem_mul, mem_mul]
  constructor
  · rintro (⟨whole, after, rfl, matched, more⟩ | ⟨before, fraction, rfl, rfl, matched⟩)
    · obtain ⟨nonempty, each⟩ := mem_digits.mp matched
      rcases mem_optional.mp more with rfl | more
      · exact .inl (by simpa using ⟨nonempty, each⟩)
      · obtain ⟨_, fraction, rfl, rfl, matched⟩ := mem_mul.mp more
        refine .inr ⟨whole, fraction, rfl, each, ?_, .inl nonempty⟩
        rcases mem_optional.mp matched with rfl | matched
        · exact fun _ absent => absurd absent List.not_mem_nil
        · exact (mem_digits.mp matched).2
    · obtain ⟨nonempty, each⟩ := mem_digits.mp matched
      exact .inr ⟨[], fraction, rfl, fun _ absent => absurd absent List.not_mem_nil, each,
        .inr nonempty⟩
  · rintro (plain | ⟨whole, fraction, rfl, before, after, some⟩)
    · exact .inl ⟨text, [], by simp, mem_digits.mpr plain, mem_optional.mpr (.inl rfl)⟩
    · by_cases empty : whole = []
      · subst empty
        exact .inr ⟨['.'], fraction, rfl, rfl,
          mem_digits.mpr ⟨some.resolve_left (absurd rfl), after⟩⟩
      · refine .inl ⟨whole, '.' :: fraction, rfl, mem_digits.mpr ⟨empty, before⟩,
          mem_optional.mpr (.inr (mem_mul.mpr ⟨['.'], fraction, rfl, rfl, ?_⟩))⟩
        by_cases ends : fraction = []
        · exact mem_optional.mpr (.inl ends)
        · exact mem_optional.mpr (.inr (mem_digits.mpr ⟨ends, after⟩))

theorem chars_of_mem_mantissa {text : List Char} (matched : text ∈ mantissa.matches')
    : text ≠ [] ∧ ∀ c ∈ text, c.isDigit = true ∨ c = '.' := by
  rcases mem_mantissa.mp matched with ⟨nonempty, each⟩ | ⟨whole, fraction, rfl, before, after, _⟩
  · exact ⟨nonempty, fun c present => .inl (each c present)⟩
  · refine ⟨by simp, fun c present => ?_⟩
    rcases List.mem_append.mp present with inside | inside
    · exact .inl (before c inside)
    rcases List.mem_cons.mp inside with rfl | inside
    · exact .inr rfl
    · exact .inl (after c inside)

/-- A number without its sign begins with a digit or a point. -/
theorem not_mem_unsigned_of_sign {mark : Char} {rest : List Char} (signs : mark = '+' ∨ mark = '-')
    : mark :: rest ∉ unsigned.matches' := by
  intro matched
  obtain ⟨before, after, same, matched, _⟩ := mem_mul.mp matched
  obtain ⟨nonempty, each⟩ := chars_of_mem_mantissa matched
  obtain ⟨first, others, rfl⟩ := List.exists_cons_of_ne_nil nonempty
  obtain ⟨rfl, _⟩ := List.cons.inj same
  rcases each mark List.mem_cons_self with isDigit | rfl
  · rcases signs with rfl | rfl <;> exact absurd isDigit (by decide)
  · rcases signs with wrong | wrong <;> exact absurd wrong (by decide)

/-- A pattern after an optional sign is matched behind a sign or at once. -/
theorem mem_signed {pattern : RegularExpression Char} {text : List Char}
    : text ∈ (optional sign * pattern).matches'
      ↔ text ∈ pattern.matches'
        ∨ ∃ mark rest,
            (mark = '+' ∨ mark = '-') ∧ text = mark :: rest ∧ rest ∈ pattern.matches' := by
  rw [mem_mul]
  constructor
  · rintro ⟨before, after, rfl, first, matched⟩
    rcases mem_optional.mp first with rfl | first
    · exact .inl matched
    · obtain ⟨mark, listed, rfl⟩ := mem_oneOf.mp first
      exact .inr ⟨mark, after, by simpa using listed, rfl, matched⟩
  · rintro (matched | ⟨mark, rest, signs, rfl, matched⟩)
    · exact ⟨[], text, rfl, mem_optional.mpr (.inl rfl), matched⟩
    · refine ⟨[mark], rest, rfl, mem_optional.mpr (.inr (mem_oneOf.mpr ⟨mark, ?_, rfl⟩)), matched⟩
      simpa using signs

theorem mem_signed_of_sign {pattern : RegularExpression Char} {mark : Char} {rest : List Char}
    (signs : mark = '+' ∨ mark = '-') (unsigned : mark :: rest ∉ pattern.matches')
    : mark :: rest ∈ (optional sign * pattern).matches' ↔ rest ∈ pattern.matches' := by
  rw [mem_signed]
  constructor
  · rintro (matched | ⟨_, _, _, same, matched⟩)
    · exact absurd matched unsigned
    · obtain ⟨rfl, rfl⟩ := List.cons.inj same
      exact matched
  · exact fun matched => .inr ⟨mark, rest, signs, rfl, matched⟩

theorem mem_signed_of_plain {pattern : RegularExpression Char} {first : Char} {rest : List Char}
    (plain : ¬(first = '+' ∨ first = '-'))
    : first :: rest ∈ (optional sign * pattern).matches' ↔ first :: rest ∈ pattern.matches' := by
  rw [mem_signed]
  constructor
  · rintro (matched | ⟨_, _, signs, same, _⟩)
    · exact matched
    · obtain ⟨rfl, _⟩ := List.cons.inj same
      exact absurd signs plain
  · exact .inl

/-- A minus may be put in front of a number that has no sign. -/
theorem minus_mem_numeral {days : List Char} (matched : days ∈ numeral.matches')
    (unnegated : days.head? ≠ some '-')
    : '-' :: days ∈ numeral.matches' ↔ days.head? ≠ some '+' := by
  rw [numeral] at matched ⊢
  rw [mem_signed_of_sign (.inr rfl) (not_mem_unsigned_of_sign (.inr rfl))]
  rcases mem_signed.mp matched with plain | ⟨mark, rest, signs, rfl, below⟩
  · refine iff_of_true plain fun begins => ?_
    obtain ⟨rest, rfl⟩ := List.head?_eq_some_iff.mp begins
    exact not_mem_unsigned_of_sign (.inl rfl) plain
  · rcases signs with rfl | rfl
    · exact iff_of_false (not_mem_unsigned_of_sign (.inl rfl)) (absurd rfl)
    · exact absurd rfl unnegated

/-- An exponent is matched by a mark and what an optional sign leaves for digits. -/
theorem mem_exponent {text : List Char}
    : text ∈ exponent.matches'
      ↔ ∃ mark rest,
          isExponentMark mark = true
          ∧ text = mark :: rest
          ∧ rest ∈ (optional sign * digits).matches' := by
  rw [exponent, mem_mul]
  constructor
  · rintro ⟨before, after, rfl, first, matched⟩
    obtain ⟨mark, listed, rfl⟩ := mem_oneOf.mp first
    exact ⟨mark, after, by simpa [isExponentMark] using listed, rfl, matched⟩
  · rintro ⟨mark, rest, marked, rfl, matched⟩
    refine ⟨[mark], rest, rfl, mem_oneOf.mpr ⟨mark, ?_, rfl⟩, matched⟩
    simpa [isExponentMark] using marked

end Grammar

open Grammar

-----------------------------------------------------------------------------------------
-- What the check makes of a text that is cut at its marks
-----------------------------------------------------------------------------------------

theorem isMantissa_plain {text : List Char} (plain : ∀ c ∈ text, c ≠ '.')
    : isMantissa text = (text.all Char.isDigit && !text.isEmpty) := by
  have each : ∀ c ∈ text, (decide (c ≠ '.')) = true := fun c present =>
    decide_eq_true (plain c present)
  rw [isMantissa, List.takeWhile_eq_self_iff.mpr each, List.dropWhile_eq_nil_iff.mpr each]
  simp

theorem isMantissa_pointed {whole : List Char} (plain : ∀ c ∈ whole, c ≠ '.')
    (fraction : List Char)
    : isMantissa (whole ++ '.' :: fraction)
      = (whole.all Char.isDigit && fraction.all Char.isDigit
          && !(whole.isEmpty && fraction.isEmpty)) := by
  have each : ∀ c ∈ whole, (decide (c ≠ '.')) = true := fun c present =>
    decide_eq_true (plain c present)
  rw [isMantissa, takeWhile_cut each (by decide), dropWhile_cut each (by decide), List.tail_cons]

/-- The check of a mantissa accepts what the grammar matches, by whether there is a point. -/
theorem isMantissa_iff {text : List Char}
    : isMantissa text = true ↔ text ∈ mantissa.matches' := by
  have digitsPlain {part : List Char} (each : ∀ c ∈ part, c.isDigit = true)
      : ∀ c ∈ part, c ≠ '.' := by
    rintro c present rfl
    exact absurd (each _ present) (by decide)
  rw [mem_mantissa]
  constructor
  · intro accepted
    rcases passes_or_cut (fun c => decide (c ≠ '.')) text with
      plain | ⟨whole, mark, fraction, rfl, plain, isPoint⟩
    · rw [isMantissa_plain fun c present => of_decide_eq_true (plain c present)] at accepted
      simp only [Bool.and_eq_true, List.all_eq_true] at accepted
      exact .inl ⟨by simpa using accepted.2, accepted.1⟩
    · obtain rfl : mark = '.' := by simpa using isPoint
      rw [isMantissa_pointed fun c present => of_decide_eq_true (plain c present)] at accepted
      simp only [Bool.and_eq_true, List.all_eq_true] at accepted
      refine .inr ⟨whole, fraction, rfl, accepted.1.1, accepted.1.2, ?_⟩
      have some := accepted.2
      by_cases empty : whole = []
      · exact .inr (by simpa [empty] using some)
      · exact .inl empty
  · rintro (⟨nonempty, each⟩ | ⟨whole, fraction, rfl, before, after, some⟩)
    · rw [isMantissa_plain (digitsPlain each)]
      simpa [nonempty] using each
    · rw [isMantissa_pointed (digitsPlain before)]
      simp only [Bool.and_eq_true, List.all_eq_true]
      refine ⟨⟨before, after⟩, ?_⟩
      rcases some with nonempty | nonempty <;> simp [nonempty]

theorem isUnsignedNumber_plain {text : List Char}
    (plain : ∀ c ∈ text, isExponentMark c = false)
    : isUnsignedNumber text = isMantissa text := by
  have each : ∀ c ∈ text, (!isExponentMark c) = true := fun c present => by
    rw [plain c present, Bool.not_false]
  unfold isUnsignedNumber
  rw [List.takeWhile_eq_self_iff.mpr each, List.dropWhile_eq_nil_iff.mpr each]

theorem isUnsignedNumber_marked {before : List Char}
    (plain : ∀ c ∈ before, isExponentMark c = false) {mark : Char}
    (marked : isExponentMark mark = true) (after : List Char)
    : isUnsignedNumber (before ++ mark :: after) = (isMantissa before && isExponent after) := by
  have each : ∀ c ∈ before, (!isExponentMark c) = true := fun c present => by
    rw [plain c present, Bool.not_false]
  have fails : (!isExponentMark mark) = false := by
    rw [marked, Bool.not_true]
  unfold isUnsignedNumber
  rw [takeWhile_cut each fails, dropWhile_cut each fails]

/-- The check of an exponent takes off the sign that the grammar allows. -/
theorem isExponent_iff {text : List Char}
    : isExponent text = true ↔ text ∈ (optional sign * digits).matches' := by
  have bare (rest : List Char)
      : (!rest.isEmpty && rest.all Char.isDigit) = true ↔ rest ∈ digits.matches' := by
    rw [mem_digits, Bool.and_eq_true, List.all_eq_true]
    simp
  cases text with
  | nil =>
      rw [mem_signed, ← bare]
      simp [isExponent]
  | cons first rest =>
      by_cases signs : first = '+' ∨ first = '-'
      · have unsigned : first :: rest ∉ digits.matches' := by
          intro matched
          have isDigit := (mem_digits.mp matched).2 first List.mem_cons_self
          rcases signs with rfl | rfl <;> exact absurd isDigit (by decide)
        rw [mem_signed_of_sign signs unsigned, ← bare]
        rcases signs with rfl | rfl <;> rfl
      · rw [mem_signed_of_plain signs, ← bare]
        obtain ⟨notPlus, notMinus⟩ := not_or.mp signs
        unfold isExponent
        split
        · rename_i same
          exact absurd (List.cons.inj same).1 notPlus
        · rename_i same
          exact absurd (List.cons.inj same).1 notMinus
        · rfl

/-- The check of an unsigned number accepts what the grammar matches: a mantissa has no mark of an
exponent in it, so the first mark is where the grammar cuts the text.
-/
theorem isUnsignedNumber_iff {text : List Char}
    : isUnsignedNumber text = true ↔ text ∈ unsigned.matches' := by
  have unmarked {part : List Char} (matched : part ∈ mantissa.matches')
      : ∀ c ∈ part, isExponentMark c = false := by
    intro c present
    rcases (chars_of_mem_mantissa matched).2 c present with isDigit | rfl
    · by_contra marked
      have mark : c = 'e' ∨ c = 'E' := by
        simpa only [isExponentMark, Bool.not_eq_false, Bool.or_eq_true, decide_eq_true_eq]
          using marked
      rcases mark with rfl | rfl <;> exact absurd isDigit (by decide)
    · decide
  rw [unsigned, mem_mul]
  constructor
  · intro accepted
    rcases passes_or_cut (fun c => !isExponentMark c) text with
      plain | ⟨before, mark, after, rfl, plain, marked⟩
    · rw [isUnsignedNumber_plain fun c present => by simpa using plain c present] at accepted
      exact ⟨text, [], by simp, isMantissa_iff.mp accepted, mem_optional.mpr (.inl rfl)⟩
    · have marked : isExponentMark mark = true := by simpa using marked
      rw [isUnsignedNumber_marked (fun c present => by simpa using plain c present) marked,
        Bool.and_eq_true] at accepted
      exact ⟨before, mark :: after, rfl, isMantissa_iff.mp accepted.1,
        mem_optional.mpr (.inr (mem_exponent.mpr
          ⟨mark, after, marked, rfl, isExponent_iff.mp accepted.2⟩))⟩
  · rintro ⟨before, after, rfl, matched, more⟩
    rcases mem_optional.mp more with rfl | more
    · rw [List.append_nil, isUnsignedNumber_plain (unmarked matched)]
      exact isMantissa_iff.mpr matched
    · obtain ⟨mark, rest, marked, rfl, matchedRest⟩ := mem_exponent.mp more
      rw [isUnsignedNumber_marked (unmarked matched) marked, Bool.and_eq_true]
      exact ⟨isMantissa_iff.mpr matched, isExponent_iff.mpr matchedRest⟩

/-- The check of a number accepts what the grammar matches, but for a minus in front where none is
allowed.
-/
theorem isNumber_iff {allowMinus : Bool} {text : List Char}
    : isNumber allowMinus text = true
      ↔ text ∈ numeral.matches' ∧ (allowMinus = true ∨ text.head? ≠ some '-') := by
  rw [numeral]
  cases text with
  | nil =>
      rw [mem_signed, ← isUnsignedNumber_iff]
      simp [isNumber, isUnsignedNumber, isMantissa]
  | cons first rest =>
      by_cases signs : first = '+' ∨ first = '-'
      · rw [mem_signed_of_sign signs (not_mem_unsigned_of_sign signs), ← isUnsignedNumber_iff]
        rcases signs with rfl | rfl
        · simp [isNumber]
        · simp [isNumber, and_comm]
      · obtain ⟨notPlus, notMinus⟩ := not_or.mp signs
        have head : (first :: rest).head? ≠ some '-' := by simpa using notMinus
        rw [mem_signed_of_plain signs, ← isUnsignedNumber_iff, iff_true_intro (Or.inr head),
          and_true]
        unfold isNumber
        split
        · rename_i same
          exact absurd (List.cons.inj same).1 notMinus
        · rename_i same
          exact absurd (List.cons.inj same).1 notPlus
        · rfl

example : ['.', '5', 'E', '+', '7'] ∈ numeral.matches' ∧ ['-', '+', '5'] ∉ numeral.matches' := by
  decide

-----------------------------------------------------------------------------------------
-- What operands are read as
-----------------------------------------------------------------------------------------

/-- A number operand becomes a literal as it is, if the grammar matches it. -/
theorem read_number (raw : String)
    : read .number raw none
      = if raw.toList ∈ numeral.matches' then .ok (.number raw)
        else .error (.invalidLiteral .number raw) := by
  have accepted : isNumber true raw.toList = true ↔ raw.toList ∈ numeral.matches' := by
    rw [isNumber_iff, iff_true_intro (Or.inl rfl), and_true]
  exact if_congr accepted rfl rfl

/-- A number of days must not begin with a minus besides. -/
theorem read_days (raw : String)
    : read .number raw (some .timeSpan)
      = if raw.toList ∈ numeral.matches' ∧ raw.toList.head? ≠ some '-' then .ok (.number raw)
        else .error (.invalidLiteral .number raw) := by
  have accepted
      : isNumber false raw.toList = true
        ↔ raw.toList ∈ numeral.matches' ∧ raw.toList.head? ≠ some '-' := by
    rw [isNumber_iff, or_iff_right Bool.false_ne_true]
  exact if_congr accepted rfl rfl

/-- A number is written as it is. -/
@[simp]
theorem code_number (raw : String) : (number raw).code = raw :=
  rfl

/-- What is written of a literal that was accepted on a condition. -/
theorem map_code_ite {raw : String} {fault : CompileFault} (accepted : Prop) [Decidable accepted]
    : (Except.map code (if accepted then .ok (.number raw) else .error fault) = .ok raw
        ↔ accepted)
      ∧ (Except.map code (if accepted then .ok (.number raw) else .error fault) = .error fault
        ↔ ¬accepted) := by
  split
  · rename_i holds
    exact ⟨iff_of_true rfl holds, iff_of_false nofun (not_not_intro holds)⟩
  · rename_i fails
    exact ⟨iff_of_false nofun fails, iff_of_true rfl fails⟩

/-- A number operand is accepted, and written as it is, exactly if the grammar of numbers matches
it; one that counts days must not begin with a minus either. Any other operand is refused by name.
-/
theorem read_number_by_grammar (raw : String)
    : ((read .number raw none).map code = .ok raw ↔ raw.toList ∈ numeral.matches')
      ∧ ((read .number raw none).map code = .error (.invalidLiteral .number raw)
        ↔ raw.toList ∉ numeral.matches')
      ∧ ((read .number raw (some .timeSpan)).map code = .ok raw
        ↔ raw.toList ∈ numeral.matches' ∧ raw.toList.head? ≠ some '-')
      ∧ ((read .number raw (some .timeSpan)).map code = .error (.invalidLiteral .number raw)
        ↔ ¬(raw.toList ∈ numeral.matches' ∧ raw.toList.head? ≠ some '-')) := by
  rw [read_number, read_days]
  obtain ⟨written, refused⟩ := map_code_ite (raw.toList ∈ numeral.matches')
  obtain ⟨daysWritten, daysRefused⟩ :=
    map_code_ite (raw.toList ∈ numeral.matches' ∧ raw.toList.head? ≠ some '-')
  exact ⟨written, refused, daysWritten, daysRefused⟩

end QueryTree.Literal
