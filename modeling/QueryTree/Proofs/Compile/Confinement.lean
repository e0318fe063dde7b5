import QueryTree.Proofs.Code.Literal
import QueryTree.Proofs.Code.Skeleton
import QueryTree.Proofs.Compile.Frame

/-! Operands are confined to literals. All code that is generated for expressions of one outline is
the same skeleton, and each operand stands in its own hole of it as a closed literal.
-/

namespace QueryTree

namespace Expression

variable {schema : Schema}

/-- The frames of members do not depend on operands, which only say that there is a place. -/
theorem frames_outlines {type : ObjectType} {subject : Frame} {members : List Expression}
    (each
      : ∀ member ∈ members,
          member.outline.frame schema type subject = member.frame schema type subject)
    : frames schema type subject (outlines members) = frames schema type subject members := by
  rw [outlines_eq, frames_eq, frames_eq, List.map_map]
  exact List.map_congr_left each

theorem queryFrame_queryOutline {target : String} {subject : Frame} {query : Option Expression}
    (below
      : ∀ inner, query = some inner → ∀ type,
          inner.outline.frame schema type subject = inner.frame schema type subject)
    : queryFrame schema target subject (queryOutline query)
      = queryFrame schema target subject query := by
  cases query with
  | none => rfl
  | some inner =>
      simp only [queryOutline, queryFrame]
      cases schema.get? target with
      | none => rfl
      | some type => exact congrArg some (below inner rfl type)

theorem armFrames_armOutlines {arms : List TypeArm}
    (each
      : ∀ selector query, TypeArm.arm selector (some query) ∈ arms → ∀ type subject,
          query.outline.frame schema type subject = query.frame schema type subject)
    : armFrames schema (armOutlines arms) = armFrames schema arms := by
  rw [armOutlines_eq, armFrames_eq, armFrames_eq, List.map_map]
  refine List.map_congr_left fun ⟨selector, query⟩ present => ?_
  have guard
      : queryFrame schema selector [.code Compiler.narrowedName] (queryOutline query)
        = queryFrame schema selector [.code Compiler.narrowedName] query :=
    queryFrame_queryOutline fun inner same type => each selector inner (same ▸ present) type _
  rw [Function.comp_apply, armOutline, armFrame, armFrame, guard]

/-- The frame of an expression does not depend on its operands, by induction on the expression. -/
theorem frame_outline (type : ObjectType) (subject : Frame) (expression : Expression)
    : expression.outline.frame schema type subject = expression.frame schema type subject := by
  induction expression generalizing type subject with
  | boolean combiner members ih =>
      simp only [outline, frame, frames_outlines fun member present => ih member present ..]
  | property id operator operand => rfl
  | relationship negated id query ih =>
      simp only [outline, frame]
      cases type.relationship? id with
      | none => rfl
      | some declared => simp only [queryFrame_queryOutline fun inner same type => ih inner same ..]
  | name operator operand => rfl
  | insight negated badge => rfl
  | typeSwitch arms ih =>
      simp only [outline, frame, armFrames_armOutlines ih]

theorem frame_eq_of_outline_eq {left right : Expression} (same : left.outline = right.outline)
    (type : ObjectType) (subject : Frame)
    : left.frame schema type subject = right.frame schema type subject := by
  rw [← frame_outline, same, frame_outline]

end Expression

/-- Every literal in the holes of a skeleton is closed, whatever operands it was read from. -/
theorem Skeleton.Reads.closed {skeleton : Skeleton} {operands literals : List String}
    (reads : skeleton.Reads operands literals)
    : ∀ literal ∈ literals, Literal.Closed literal := by
  intro literal member
  have rendered : Except.ok literal ∈ literals.map (Except.ok (ε := CompileFault)) :=
    List.mem_map_of_mem member
  rw [← reads] at rendered
  obtain ⟨place, _, same⟩ := List.mem_iff_getElem.mp rendered
  rw [List.getElem_zipWith] at same
  exact OperandKind.closed_of_render same

namespace Compiler

/-- Code that is generated for an expression is the skeleton of its frame with the literals of its
operands in the holes.
-/
theorem generateForType_eq_fill {schema : Schema} (plain : schema.Plain) {name : String}
    {type : ObjectType} (known : schema.get? name = some type) {maxDepth : Nat} {subject : String}
    {expression : Expression} {code : String}
    (generated : generateForType ⟨schema, maxDepth⟩ name subject expression = .ok code)
    : let skeleton := (expression.frame schema type [.subject]).skeleton subject
      skeleton.holes.length = expression.operands.length
      ∧ ∃ literals,
          skeleton.Reads expression.operands literals ∧ code = skeleton.fill literals := by
  obtain ⟨found, term, knownToo, compiled, rfl⟩ := generateForType_eq_ok.mp generated
  obtain rfl := Option.some.inj (known.symm.trans knownToo)
  have reads : Frame.Renders subject [.subject] [] (Term.name subject).code := Frame.renders_subject
  exact (renders_frame plain (plain name _ known) reads compiled).fill

/-- Operands cannot inject code. For a schema that a document describes, a type, a subject and an
outline there is one skeleton, with a hole for each operand, such that all code generated for an
expression of that outline is the skeleton with a literal in every hole: the literal that the
operand in that place is read as, which is closed.
-/
theorem exists_skeleton_of_outline {document : SchemaDocument} {schema : Schema}
    (valid : document.toSchema = .ok schema) (name subject : String) (shape : Expression)
    : ∃ skeleton : Skeleton,
        skeleton.holes.length = shape.operands.length
        ∧ ∀ maxDepth expression code,
            expression.outline = shape.outline
            → generateForType ⟨schema, maxDepth⟩ name subject expression = .ok code
            → ∃ literals,
                skeleton.Reads expression.operands literals
                ∧ (∀ literal ∈ literals, Literal.Closed literal)
                ∧ code = skeleton.fill literals := by
  have plain := SchemaDocument.plain_of_toSchema valid
  -- Where nothing of this outline compiles, any skeleton with enough holes will do.
  by_cases some_compile
      : ∃ maxDepth expression code,
          Expression.outline expression = shape.outline
          ∧ generateForType ⟨schema, maxDepth⟩ name subject expression = .ok code
  · obtain ⟨maxDepth, first, firstCode, alike, generated⟩ := some_compile
    obtain ⟨type, _, known, _⟩ := generateForType_eq_ok.mp generated
    replace known : schema.get? name = some type := known
    refine ⟨(shape.frame schema type [.subject]).skeleton subject, ?_, ?_⟩
    · have count := (generateForType_eq_fill plain known generated).1
      rwa [Expression.frame_eq_of_outline_eq alike,
        Expression.length_operands_eq_of_outline_eq alike] at count
    · intro maxDepth expression code same done
      obtain ⟨_, literals, reads, filled⟩ := generateForType_eq_fill plain known done
      rw [Expression.frame_eq_of_outline_eq same] at reads filled
      exact ⟨literals, reads, reads.closed, filled⟩
  · refine ⟨⟨"", List.replicate shape.operands.length (⟨.string, none⟩, "")⟩,
      List.length_replicate, ?_⟩
    intro maxDepth expression code same done
    exact absurd ⟨maxDepth, expression, code, same, done⟩ some_compile

/-- For devices, a name that tries to end its literal stays in its hole. -/
theorem devices_operands_confined
    : SchemaDocument.devices.toSchema = .ok SchemaDocument.devicesSchema
      ∧ ∃ skeleton : Skeleton,
          skeleton.holes.length = 2
          ∧ ∃ literals,
              skeleton.Reads ["1e3", "\" || true || \""] literals
              ∧ (∀ literal ∈ literals, Literal.Closed literal)
              ∧ "(d.ports > 1e3 && d.name == \"\\\" || true || \\\"\")"
                = skeleton.fill literals := by
  refine ⟨SchemaDocument.devices_toSchema, ?_⟩
  obtain ⟨skeleton, count, fills⟩ := exists_skeleton_of_outline SchemaDocument.devices_toSchema
    "Device" "d" (.boolean .and [.property "ports" .greater "", .name .equal ""])
  exact ⟨skeleton, count, fills 2
    (.boolean .and [.property "ports" .greater "1e3", .name .equal "\" || true || \""]) _ rfl rfl⟩

end Compiler

end QueryTree
