import QueryTree.Proofs.Code.Frame

/-! Skeletons: code around holes. A frame whose subject is known is a skeleton, with one hole for
each of its operands, and whatever the frame renders to is the skeleton filled with literals.
-/

namespace QueryTree

/-- Code around holes: what stands before the first hole and, for every hole, how its operand is
read and what stands after it.
-/
structure Skeleton where
  start : String
  holes : List (OperandKind × String)

namespace Skeleton

/-- The code of a skeleton with a literal in every hole. -/
def fill (skeleton : Skeleton) (literals : List String) : String :=
  skeleton.start
    ++ String.join (List.zipWith (fun hole literal => literal ++ hole.2) skeleton.holes literals)

def prepend (text : String) (skeleton : Skeleton) : Skeleton :=
  ⟨text ++ skeleton.start, skeleton.holes⟩

/-- The skeleton behind one more hole. -/
def behind (kind : OperandKind) (skeleton : Skeleton) : Skeleton :=
  ⟨"", (kind, skeleton.start) :: skeleton.holes⟩

theorem fill_prepend (text : String) (skeleton : Skeleton) (literals : List String)
    : (skeleton.prepend text).fill literals = text ++ skeleton.fill literals :=
  String.append_assoc ..

theorem fill_behind (kind : OperandKind) (skeleton : Skeleton) (literal : String)
    (literals : List String)
    : (skeleton.behind kind).fill (literal :: literals) = literal ++ skeleton.fill literals := by
  simp [fill, behind, ← String.toList_inj]

/-- Literals are what operands become in the holes of a skeleton, each read as its hole says. -/
def Reads (skeleton : Skeleton) (operands literals : List String) : Prop :=
  List.zipWith (fun hole operand => hole.1.render operand) skeleton.holes operands
  = literals.map .ok

end Skeleton

namespace Frame

/-- The skeleton of a frame for a subject. -/
def skeleton (subject : String) : Frame → Skeleton
  | [] => ⟨"", []⟩
  | .code text :: rest => (skeleton subject rest).prepend text
  | .subject :: rest => (skeleton subject rest).prepend subject
  | .operand kind :: rest => (skeleton subject rest).behind kind

/-- What a frame renders to is its skeleton filled with the literals of the operands, by induction
on the frame.
-/
theorem Renders.fill {subject : String} {frame : Frame} {operands : List String} {text : String}
    (renders : Renders subject frame operands text)
    : (frame.skeleton subject).holes.length = operands.length
      ∧ ∃ literals,
          (frame.skeleton subject).Reads operands literals
          ∧ text = (frame.skeleton subject).fill literals := by
  induction renders with
  | nil => exact ⟨rfl, [], rfl, rfl⟩
  | code _ ih =>
      obtain ⟨count, literals, reads, rfl⟩ := ih
      exact ⟨count, literals, reads, (Skeleton.fill_prepend ..).symm⟩
  | subject _ ih =>
      obtain ⟨count, literals, reads, rfl⟩ := ih
      exact ⟨count, literals, reads, (Skeleton.fill_prepend ..).symm⟩
  | operand read _ ih =>
      obtain ⟨count, literals, reads, rfl⟩ := ih
      refine ⟨congrArg (· + 1) count, _ :: literals, ?_, (Skeleton.fill_behind ..).symm⟩
      exact List.cons_eq_cons.mpr ⟨read, reads⟩

end Frame

end QueryTree
