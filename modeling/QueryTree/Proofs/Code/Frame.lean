import QueryTree.Code.Literal

/-! Frames: generated code with places left open in it, for the subject and for the operands of an
expression. A frame says where operands may go and as which kind of literal each of them is written;
it knows nothing of the operands themselves.
-/

namespace QueryTree

/-- How an operand is read: as a literal of a data type, or more finely. -/
structure OperandKind where
  dataType : DataType
  stereotype : Option Stereotype
deriving DecidableEq

/-- The code of an operand that is read this way. -/
def OperandKind.render (kind : OperandKind) (operand : String) : Except CompileFault String :=
  (Literal.read kind.dataType operand kind.stereotype).map Literal.code

/-- A part of a frame: fixed code, the subject, or an operand. -/
inductive FramePart where
  | code (text : String)
  | subject
  | operand (kind : OperandKind)
deriving DecidableEq

/-- Code with places for the subject and for operands. -/
abbrev Frame := List FramePart

namespace Frame

/-- A frame renders to a text when its places hold the subject and the literals of the operands,
each operand in its own place and in order.
-/
inductive Renders (subject : String) : Frame → List String → String → Prop
  | nil : Renders subject [] [] ""
  | code {text frame operands rest} (after : Renders subject frame operands rest)
    : Renders subject (.code text :: frame) operands (text ++ rest)
  | subject {frame operands rest} (after : Renders subject frame operands rest)
    : Renders subject (.subject :: frame) operands (subject ++ rest)
  | operand {kind operand literal frame operands rest} (read : kind.render operand = .ok literal)
    (after : Renders subject frame operands rest)
    : Renders subject (.operand kind :: frame) (operand :: operands) (literal ++ rest)

section Renders

variable {subject : String}

/-- Frames side by side render to their texts side by side, by induction on the first. -/
theorem Renders.append {left right : Frame} {operands more : List String} {text rest : String}
    (first : Renders subject left operands text) (second : Renders subject right more rest)
    : Renders subject (left ++ right) (operands ++ more) (text ++ rest) := by
  induction first with
  | nil => simpa using second
  | code _ ih => exact String.append_assoc .. ▸ .code ih
  | subject _ ih => exact String.append_assoc .. ▸ .subject ih
  | operand read _ ih => exact String.append_assoc .. ▸ .operand read ih

/-- A frame that is one part renders to it, and ends in nothing. -/
theorem renders_code (text : String) : Renders subject [.code text] [] text := by
  have rendered : Renders subject [.code text] [] (text ++ "") := .code .nil
  rwa [String.append_empty] at rendered

theorem renders_subject : Renders subject [.subject] [] subject := by
  have rendered : Renders subject [.subject] [] (subject ++ "") := .subject .nil
  rwa [String.append_empty] at rendered

theorem renders_operand {kind : OperandKind} {operand literal : String}
    (read : kind.render operand = .ok literal)
    : Renders subject [.operand kind] [operand] literal := by
  have rendered : Renders subject [.operand kind] [operand] (literal ++ "") := .operand read .nil
  rwa [String.append_empty] at rendered

theorem Renders.of_eq {frame : Frame} {operands : List String} {text other : String}
    (renders : Renders subject frame operands text) (same : text = other)
    : Renders subject frame operands other :=
  same ▸ renders

end Renders

/-- Frames render to texts one by one, the operands of all of them in a row. -/
inductive RendersAll (subject : String) : List Frame → List String → List String → Prop
  | nil : RendersAll subject [] [] []
  | cons {frame operands text frames more texts} (first : Renders subject frame operands text)
    (rest : RendersAll subject frames more texts)
    : RendersAll subject (frame :: frames) (operands ++ more) (text :: texts)

/-- Frames joined by fixed code. -/
def joined (separator : String) : List Frame → Frame
  | [] => []
  | [frame] => frame
  | frame :: next :: rest => frame ++ (.code separator :: joined separator (next :: rest))

theorem RendersAll.joined {subject : String} (separator : String) {frames : List Frame}
    {operands texts : List String} (each : RendersAll subject frames operands texts)
    : Renders subject (Frame.joined separator frames) operands (separator.intercalate texts) := by
  induction each with
  | nil => exact .nil
  | cons first rest ih =>
      cases rest with
      | nil => simpa [Frame.joined] using first
      | cons next others =>
          -- A separator stands behind a frame that another one follows.
          rw [String.intercalate_cons_cons, String.append_assoc]
          exact first.append (.code ih)

end Frame

end QueryTree
