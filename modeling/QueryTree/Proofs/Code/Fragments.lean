import QueryTree.Proofs.Code.Frame

/-! Fragments: code around the subject. A frame whose operands are known is a list of fragments,
with the subject between each two of them, and another subject only takes the place of the first.
-/

namespace QueryTree.Frame

variable {subject : String} {frame : Frame} {operands : List String} {text : String}

/-- The operands in the places of a frame decide the text, by induction on the frame. -/
theorem Renders.unique (first : Renders subject frame operands text) {other : String}
    (second : Renders subject frame operands other)
    : text = other := by
  induction first generalizing other with
  | nil =>
      cases second with
      | nil => rfl
  | code _ ih =>
      cases second with
      | code after => rw [ih after]
  | subject _ ih =>
      cases second with
      | subject after => rw [ih after]
  | operand read _ ih =>
      cases second with
      | operand readToo after =>
          obtain rfl := Except.ok.inj (read.symm.trans readToo)
          rw [ih after]

/-- What renders for one subject renders for all of them, to fragments that do not depend on the
subject, by induction on the frame. There is one fragment more than there are places for the
subject.
-/
theorem Renders.fragments (renders : Renders subject frame operands text)
    : ∃ fragments : List String,
        fragments.length = frame.count .subject + 1
        ∧ ∀ other, Renders other frame operands (other.intercalate fragments) := by
  induction renders with
  | nil => exact ⟨[""], rfl, fun other => by simpa using .nil⟩
  | @code before frame _ _ _ ih =>
      -- Code goes in front of the first fragment, and there always is one.
      obtain ⟨_ | ⟨first, rest⟩, count, each⟩ := ih
      · simp at count
      · refine ⟨(before ++ first) :: rest, by simpa using count, fun other => ?_⟩
        rw [String.intercalate_cons_append]
        exact .code (each other)
  | @subject frame _ _ _ ih =>
      -- The subject closes a fragment, and a new one starts in front of it.
      obtain ⟨_ | ⟨first, rest⟩, count, each⟩ := ih
      · simp at count
      · refine ⟨"" :: first :: rest, by simpa using count, fun other => ?_⟩
        rw [String.intercalate_cons_cons, String.empty_append]
        exact .subject (each other)
  | @operand kind _ literal frame _ _ read _ ih =>
      obtain ⟨_ | ⟨first, rest⟩, count, each⟩ := ih
      · simp at count
      · refine ⟨(literal ++ first) :: rest, by simpa using count, fun other => ?_⟩
        rw [String.intercalate_cons_append]
        exact .operand read (each other)

end QueryTree.Frame
