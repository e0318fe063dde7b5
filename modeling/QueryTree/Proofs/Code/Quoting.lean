import Mathlib.Algebra.Ring.Parity
import QueryTree.Text

/-! Quoting texts. One pass over a text escapes what three replacements of the whole text escape one
after the other, the backslashes first. A reader that takes the character behind a backslash as it
is ends at the closing mark of a literal and gets the text back.
-/

namespace QueryTree.Text

/-- The text with `other` in the place of every `mark`. -/
def replaceEvery (mark : Char) (other text : String) : String :=
  String.ofList (text.toList.flatMap fun c => if c = mark then other.toList else [c])

namespace Quoted

/-- Reads up to the first bare quotation mark, a backslash together with the character behind it,
which stands for itself. What was read comes with what is left behind the mark.
-/
def readBody : List Char → Option (List Char × List Char)
  | [] => none
  | '"' :: rest => some ([], rest)
  | ['\\'] => none
  | '\\' :: c :: rest => (readBody rest).map fun read => (c :: read.1, read.2)
  | c :: rest => (readBody rest).map fun read => (c :: read.1, read.2)

/-- How many backslashes stand together at the end of a text. -/
def finalBackslashes (text : List Char) : Nat :=
  (text.reverse.takeWhile (· = '\\')).length

end Quoted

/-- Reads a literal at the start of a text: what it stands for, and what is left behind it. -/
def unquote? (code : String) : Option (String × String) :=
  match code.toList with
  | '"' :: text =>
      (Quoted.readBody text).map fun read => (String.ofList read.1, String.ofList read.2)
  | _ => none

namespace Quoted

theorem body_cons (c : Char) (rest : List Char) : body (c :: rest) = escape c ++ body rest :=
  List.flatMap_cons

/-- A character is read back from its escape, or from itself if it needs none. -/
theorem readBody_escape (c : Char) (rest : List Char)
    : readBody (escape c ++ rest) = (readBody rest).map fun read => (c :: read.1, read.2) := by
  unfold escape
  split
  · rename_i special
    rcases special with rfl | rfl | rfl <;> rfl
  · rename_i plain
    simp only [not_or] at plain
    rw [List.singleton_append, readBody]
    · exact plain.2.1
    · intro bare _
      exact plain.1 bare
    · intro _ _ bare _
      exact plain.1 bare

/-- The body of a literal is read back up to its closing mark, by induction on the text. -/
theorem readBody_body (text rest : List Char)
    : readBody (body text ++ '"' :: rest) = some (text, rest) := by
  induction text with
  | nil => rfl
  | cons c text ih =>
      rw [body_cons, List.append_assoc, readBody_escape, ih]
      rfl

/-- Three replacements do to each character what its escape does. -/
theorem escape_eq_replacements (c : Char)
    : ((if c = '\\' then ['\\', '\\'] else [c]).flatMap fun c =>
        (if c = '"' then ['\\', '"'] else [c]).flatMap fun c =>
          if c = '$' then ['\\', '$'] else [c])
      = escape c := by
  unfold escape
  by_cases special : c = '\\' ∨ c = '"' ∨ c = '$'
  · rw [if_pos special]
    rcases special with rfl | rfl | rfl <;> rfl
  · rw [if_neg special]
    simp only [not_or] at special
    simp [special]

theorem body_eq_replacements (text : List Char)
    : ((text.flatMap
          fun c => if c = '\\' then ['\\', '\\'] else [c]).flatMap
          fun c => if c = '"' then ['\\', '"'] else [c]).flatMap
          (fun c => if c = '$' then ['\\', '$'] else [c])
      = body text := by
  rw [List.flatMap_assoc, List.flatMap_assoc]
  exact congrArg (text.flatMap ·) (funext escape_eq_replacements)

section backslashes

variable {first second : List Char}

/-- An even number of backslashes in front changes nothing about whether their number is odd: it
counts only where there is nothing but backslashes behind it.
-/
theorem odd_finalBackslashes_append (even : Even (finalBackslashes first))
    : Odd (finalBackslashes (first ++ second)) ↔ Odd (finalBackslashes second) := by
  unfold finalBackslashes at *
  rw [List.reverse_append, List.takeWhile_append]
  split
  · rename_i whole
    rw [List.length_append, whole, Nat.odd_add, iff_true_right even]
  · rfl

theorem even_finalBackslashes_escape (c : Char) : Even (finalBackslashes (escape c)) := by
  unfold escape
  split
  · rename_i special
    rcases special with rfl | rfl | rfl <;> decide
  · rename_i plain
    simp only [not_or] at plain
    simp [finalBackslashes, plain]

/-- A quotation mark or dollar in the escape of a character stands behind one backslash. -/
theorem eq_of_escape_eq {c mark : Char} (marked : mark = '"' ∨ mark = '$')
    {before after : List Char} (split : escape c = before ++ mark :: after)
    : before = ['\\'] := by
  have bare : mark ≠ '\\' := by
    rcases marked with rfl | rfl <;> decide
  unfold escape at split
  split at split
  · cases before with
    | nil => exact absurd (List.cons.inj split).1.symm bare
    | cons first others =>
        obtain ⟨rfl, rest⟩ := List.cons.inj split
        cases others with
        | nil => rfl
        | cons second others => simp at rest
  · rename_i plain
    cases before with
    | nil =>
        obtain ⟨rfl, _⟩ := List.cons.inj split
        exact absurd (.inr marked) plain
    | cons first others => simp at split

/-- An odd number of backslashes stands before every quotation mark and dollar of a body, by
induction on the text: it stands in the escape of the first character, or behind it.
-/
theorem odd_finalBackslashes_of_body {text before after : List Char} {mark : Char}
    (split : body text = before ++ mark :: after) (marked : mark = '"' ∨ mark = '$')
    : Odd (finalBackslashes before) := by
  induction text generalizing before with
  | nil => simp [body] at split
  | cons c rest ih =>
      rw [body_cons] at split
      rcases List.append_eq_append_iff.mp split with ⟨behind, rfl, later⟩ | ⟨inside, here, later⟩
      · exact (odd_finalBackslashes_append (even_finalBackslashes_escape c)).mpr (ih later)
      · cases inside with
        | nil =>
            rw [List.append_nil] at here
            have behind : body rest = [] ++ mark :: after := later.symm
            rw [← here, ← List.append_nil (escape c)]
            exact (odd_finalBackslashes_append (even_finalBackslashes_escape c)).mpr (ih behind)
        | cons first others =>
            obtain ⟨rfl, _⟩ := List.cons.inj later
            rw [eq_of_escape_eq marked here]
            decide

end backslashes

end Quoted

/-- A literal is its text between quotation marks, with every backslash doubled, then every
quotation mark escaped, then every dollar. It reads back as that text whatever stands behind it, and
an odd number of backslashes stands before each quotation mark and dollar between its own marks.
-/
theorem quote_escapes_and_reads_back (raw : String)
    : quote raw
        = "\"" ++ replaceEvery '$' "\\$"
            (replaceEvery '"' "\\\"" (replaceEvery '\\' "\\\\" raw)) ++ "\""
      ∧ (∀ rest, unquote? (quote raw ++ rest) = some (raw, rest))
      ∧ ∀ before mark after,
          (quote raw).toList = '"' :: (before ++ mark :: after ++ ['"'])
          → mark = '"' ∨ mark = '$'
          → Odd (Quoted.finalBackslashes before) := by
  refine ⟨?_, fun rest => ?_, fun before mark after split marked => ?_⟩
  · apply String.toList_inj.mp
    simp only [quote, replaceEvery, String.toList_append, String.toList_ofList]
    exact congrArg (fun body => '"' :: (body ++ ['"'])) (Quoted.body_eq_replacements _).symm
  · have behind := Quoted.readBody_body raw.toList rest.toList
    simp [unquote?, quote, behind]
  · rw [quote, String.toList_ofList] at split
    have same := List.append_cancel_right (List.cons.inj split).2
    exact Quoted.odd_finalBackslashes_of_body same marked

/-- A backslash, a quotation mark and a dollar in a row, as the second of them is escaped. -/
theorem quote_marks_in_a_row
    : quote "a\\\"$" = "\"a\\\\\\\"\\$\""
      ∧ unquote? (quote "a\\\"$" ++ ")") = some ("a\\\"$", ")")
      ∧ Odd (Quoted.finalBackslashes "a\\\\\\".toList) := by
  obtain ⟨_, reads, odd⟩ := quote_escapes_and_reads_back "a\\\"$"
  exact ⟨rfl, reads ")", odd "a\\\\\\".toList '"' "\\$".toList rfl (.inl rfl)⟩

end QueryTree.Text
