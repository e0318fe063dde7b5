import QueryTree.Proofs.Code.Fragments
import QueryTree.Proofs.Compile.Frame
import QueryTree.Proofs.Compile.Verdict

/-! The subject of generated code. Compiling for one subject or another ends with the same fault, or
gives the same fragments with the one subject or the other between them; and every expression that
compiles mentions its subject.
-/

namespace QueryTree

namespace Frame

/-- What is a part of a frame stays a part of what is built around the frame. -/
theorem mem_joined {separator : String} {part : FramePart} {frame : Frame} {rest : List Frame}
    (member : part ∈ frame)
    : part ∈ joined separator (frame :: rest) := by
  cases rest with
  | nil => exact member
  | cons next others => exact List.mem_append_left _ member

theorem mem_negateIf {part : FramePart} {frame : Frame} (member : part ∈ frame) (negated : Bool)
    : part ∈ frame.negateIf negated := by
  cases negated with
  | false => exact member
  | true => simp [negateIf, within, member]

theorem mem_signed {part : FramePart} {frame : Frame} (member : part ∈ frame) (negated : Bool)
    : part ∈ frame.signed negated := by
  cases negated with
  | false => exact member
  | true => exact List.mem_cons_of_mem _ member

end Frame

/-- Every operator mentions its left side, shape by shape. -/
theorem OperatorShape.mem_frame {part : FramePart} {left : Frame} (member : part ∈ left)
    (kind : OperandKind) (shape : OperatorShape)
    : part ∈ shape.frame left kind := by
  cases shape with
  | call function negated => exact Frame.mem_signed (by simp [member]) negated
  | includes negated => exact Frame.mem_signed (by simp [member]) negated
  | infixed symbol => exact List.mem_append_left _ member
  | beforePast => exact List.mem_append_left _ member
  | afterFuture => exact List.mem_append_left _ member
  | withinPast => exact List.mem_append_right _ (List.mem_append_left _ member)
  | withinFuture => exact List.mem_append_right _ (List.mem_append_left _ member)

theorem DataType.mem_frame {part : FramePart} {left : Frame} (member : part ∈ left)
    {dataType : DataType} {operator : Operator} {entry : OperatorEntry}
    (supported : dataType.findOperator operator = .ok entry)
    : part ∈ dataType.frame left operator := by
  unfold frame
  rw [supported]
  exact entry.shape.mem_frame member _

theorem Relationship.mem_frame {part : FramePart} {start : Frame} (member : part ∈ start)
    {relationship : Relationship}
    (plain : relationship.shape = .collection ∨ relationship.shape = .singular)
    (nested : Option Frame)
    : part ∈ relationship.frame start nested := by
  rcases plain with shape | shape <;> cases nested <;>
    simp [Relationship.frame, shape, Frame.within, Frame.member, member]

namespace Compiler

/-- An expression that compiles mentions its subject, by induction on the expression. Only a group
leaves that to its members.
-/
theorem subject_mem_frame {compiler : Compiler} {type : ObjectType} (plain : type.Plain)
    {value : Term} {start : Frame} (member : .subject ∈ start) {depth : Nat}
    {expression : Expression} {term : Term}
    (compiled : compiler.node type value depth expression = .ok term)
    : .subject ∈ expression.frame compiler.schema type start := by
  have mentioned (id : String) : FramePart.subject ∈ start.member id :=
    List.mem_append_left _ member
  induction expression generalizing depth term with
  | boolean combiner members ih =>
      cases (node_eq_ok.mp compiled).2 with
      | boolean nonempty each =>
          -- A group has a first member, which mentions the subject already.
          cases each with
          | nil => exact absurd rfl nonempty
          | cons first rest =>
              have inFirst := ih _ List.mem_cons_self first
              simp only [Expression.frame, Expression.frames]
              exact List.mem_cons_of_mem _ (List.mem_append_left _ (Frame.mem_joined inFirst))
  | property id operator operand =>
      cases (node_eq_ok.mp compiled).2 with
      | property found supported read =>
          simp only [Expression.frame, found]
          exact DataType.mem_frame (mentioned id) supported
  | relationship negated id query ih =>
      have stated {declared : Relationship} (found : type.relationship? id = some declared)
          : FramePart.subject
            ∈ (Expression.relationship negated id query).frame compiler.schema type start := by
        simp only [Expression.frame, found]
        exact Frame.mem_negateIf
          (Relationship.mem_frame member (plain.shape_of_relationship? found) _) negated
      cases (node_eq_ok.mp compiled).2 with
      | existing found => exact stated found
      | matching found => exact stated found
      | written found => exact stated found
  | name operator operand =>
      cases (node_eq_ok.mp compiled).2 with
      | name named supported read =>
          obtain ⟨id, rfl⟩ := plain.naming _ named
          simp only [Expression.frame, named]
          exact DataType.mem_frame (mentioned id) supported
  | insight negated badge =>
      simp only [Expression.frame]
      exact Frame.mem_negateIf (List.mem_append_left _ (mentioned _)) negated
  | typeSwitch arms ih =>
      -- The arms speak of the narrowed subject; the subject itself is what the choice is made for.
      simp only [Expression.frame]
      exact List.mem_append_left _ (List.mem_cons_of_mem _ (List.mem_append_left _ member))

section blind

variable {compiler : Compiler} (blind : compiler.schema.Blind) {name subject : String}
  {expression : Expression}
include blind

theorem verdict_generateForType (name left right : String) (expression : Expression)
    : verdict (compiler.generateForType name left expression)
      = verdict (compiler.generateForType name right expression) := by
  unfold generateForType
  cases known : compiler.schema.require name with
  | error fault => rfl
  | ok type =>
      simp only [generate, verdict_map]
      exact verdict_node blind (blind.of_require known) ..

theorem generateForType_error {fault : CompileFault}
    (failed : compiler.generateForType name subject expression = .error fault) (other : String)
    : compiler.generateForType name other expression = .error fault :=
  error_of_verdict_eq (verdict_generateForType blind ..) failed

theorem generateForType_ok {code : String}
    (done : compiler.generateForType name subject expression = .ok code) (other : String)
    : ∃ found, compiler.generateForType name other expression = .ok found :=
  ok_of_verdict_eq (verdict_generateForType blind ..) done

end blind

/-- The code of an expression that compiles is fragments with the subject between them, at least
two of them, and the same fragments for every subject.
-/
theorem generateForType_fragments {compiler : Compiler} (plain : compiler.schema.Plain)
    {name subject : String} {expression : Expression} {code : String}
    (done : compiler.generateForType name subject expression = .ok code)
    : ∃ fragments : List String,
        2 ≤ fragments.length
        ∧ ∀ other,
            compiler.generateForType name other expression
            = .ok (other.intercalate fragments) := by
  obtain ⟨type, term, known, compiled, rfl⟩ := generateForType_eq_ok.mp done
  have reads (other : String) : Frame.Renders other [.subject] [] (Term.name other).code :=
    Frame.renders_subject
  have mentioned := subject_mem_frame (plain name _ known) (List.mem_singleton.mpr rfl) compiled
  obtain ⟨fragments, count, each⟩ :=
    (renders_frame plain (plain name _ known) (reads subject) compiled).fragments
  have places := List.count_pos_iff.mpr mentioned
  refine ⟨fragments, by omega, fun other => ?_⟩
  -- The code for another subject renders from the same frame, and a frame renders to one text only.
  obtain ⟨found, again⟩ := generateForType_ok plain.blind done other
  obtain ⟨typeToo, found, knownToo, compiled, rfl⟩ := generateForType_eq_ok.mp again
  obtain rfl := Option.some.inj (known.symm.trans knownToo)
  have text := renders_frame plain (plain name _ known) (reads other) compiled
  rw [again, text.unique (each other)]

end Compiler

end QueryTree
