import QueryTree.Proofs.Code.Frame
import QueryTree.Proofs.Code.Term
import QueryTree.Proofs.Compile.Node
import QueryTree.Proofs.Expression.Outline
import QueryTree.Proofs.Schema.Plain

/-! The frame of an expression: the code of each kind of node as a template, with the operands left
open. A frame is put together from the schema and the outline of the expression alone, and code that
is generated for the expression is its frame with literals in the open places.
-/

namespace QueryTree

namespace Frame

/-- The member of that name of what a frame reads. -/
def member (subject : Frame) (id : String) : Frame :=
  subject ++ [.code ("." ++ id)]

/-- A frame between two pieces of fixed code. -/
def within (before : String) (inner : Frame) (after : String) : Frame :=
  .code before :: (inner ++ [.code after])

/-- A frame, or its negation. -/
def signed (negated : Bool) (inner : Frame) : Frame :=
  if negated then .code "!" :: inner else inner

/-- A frame, or the negation of the whole of it. -/
def negateIf (negated : Bool) (inner : Frame) : Frame :=
  if negated then within "!(" inner ")" else inner

section Renders

variable {subject : String} {frame : Frame} {operands : List String} {text : String}

/-- What is built around a frame renders to the same around its text. -/
theorem Renders.within (renders : Renders subject frame operands text) (before after : String)
    : Renders subject (frame.within before after) operands (before ++ text ++ after) := by
  have closed := renders.append (renders_code after)
  rw [List.append_nil] at closed
  exact (Renders.code closed).of_eq (String.append_assoc ..).symm

theorem Renders.member (renders : Renders subject frame operands text) (id : String)
    : Renders subject (frame.member id) operands (text ++ "." ++ id) := by
  have read := renders.append (renders_code ("." ++ id))
  rw [List.append_nil] at read
  exact read.of_eq (String.append_assoc ..).symm

theorem Renders.negateIf {term : Term} (renders : Renders subject frame operands term.code)
    (negated : Bool)
    : Renders subject (frame.negateIf negated) operands (Compiler.negateIf negated term).code := by
  cases negated with
  | false => exact renders
  | true =>
      refine (renders.within "!(" ")").of_eq ?_
      simp [Compiler.negateIf, Term.negation, ← String.toList_inj]

theorem Renders.signed {term : Term} (renders : Renders subject frame operands term.code)
    (negated : Bool)
    : Renders subject (frame.signed negated) operands (OperatorShape.signed negated term).code := by
  cases negated with
  | false => exact renders
  | true => exact (Renders.code renders).of_eq (by simp [OperatorShape.signed])

end Renders

end Frame

/-- The frame of an operator between the value that `left` reads and an operand. -/
def OperatorShape.frame (left : Frame) (kind : OperandKind) : OperatorShape → Frame
  | .infixed symbol => left ++ [.code (" " ++ symbol ++ " "), .operand kind]
  | .call function negated =>
      .signed negated
        (.code (function ++ "(") :: (left ++ [.code ", ", .operand kind, .code ")"]))
  | .withinPast =>
      left.within "(" " <= Dates.queryTime()) && ("
        ++ (left ++
          [.code " >= Dates.add(\"day\", -", .operand kind, .code ", Dates.queryTime()))"])
  | .beforePast =>
      left ++ [.code " < Dates.add(\"day\", -", .operand kind, .code ", Dates.queryTime())"]
  | .withinFuture =>
      left.within "(" " >= Dates.queryTime()) && ("
        ++ (left ++
          [.code " <= Dates.add(\"day\", ", .operand kind, .code ", Dates.queryTime()))"])
  | .afterFuture =>
      left ++ [.code " > Dates.add(\"day\", ", .operand kind, .code ", Dates.queryTime())"]
  | .includes negated =>
      .signed negated (left ++ [.code ".any((s) => s == ", .operand kind, .code ")"])

/-- How the operand of an entry is read where a value of the data type is compared. -/
def OperatorEntry.kindFor (entry : OperatorEntry) (dataType : DataType) : OperandKind :=
  ⟨entry.operandTypeFor dataType, entry.stereotype⟩

/-- The frame of a comparison. It is empty for an operator that the data type does not support. -/
def DataType.frame (dataType : DataType) (left : Frame) (operator : Operator) : Frame :=
  match dataType.findOperator operator with
  | .ok entry => entry.shape.frame left (entry.kindFor dataType)
  | .error _ => []

/-- The frame of an operator renders to the operator between its sides, shape by shape. -/
theorem OperatorShape.renders_frame {subject : String} {left : Frame} {value : Term}
    (reads : left.Renders subject [] value.code) {kind : OperandKind} {operand : String}
    {literal : Literal} (read : kind.render operand = .ok literal.code) (shape : OperatorShape)
    : (shape.frame left kind).Renders subject [operand]
        (shape.apply value (.literal literal)).code := by
  -- Every template ends in the operand and some fixed code after it.
  have closing (before after : String)
      : Frame.Renders subject [.code before, .operand kind, .code after] [operand]
          (before ++ (literal.code ++ after)) :=
    .code (.operand read (Frame.renders_code after))
  cases shape with
  | infixed symbol =>
      refine (reads.append (.code (Frame.renders_operand read))).of_eq ?_
      simp [OperatorShape.apply, ← String.toList_inj]
  | call function negated =>
      refine Frame.Renders.signed (.of_eq (.code (reads.append (closing ", " ")"))) ?_) negated
      simp [← String.toList_inj]
  | withinPast =>
      refine ((reads.within "(" " <= Dates.queryTime()) && (").append
        (reads.append (closing " >= Dates.add(\"day\", -" ", Dates.queryTime()))"))).of_eq ?_
      simp [OperatorShape.apply, Combiner.symbol, ← String.toList_inj]
  | beforePast =>
      refine (reads.append (closing " < Dates.add(\"day\", -" ", Dates.queryTime())")).of_eq ?_
      simp [OperatorShape.apply, ← String.toList_inj]
  | withinFuture =>
      refine ((reads.within "(" " >= Dates.queryTime()) && (").append
        (reads.append (closing " <= Dates.add(\"day\", " ", Dates.queryTime()))"))).of_eq ?_
      simp [OperatorShape.apply, Combiner.symbol, ← String.toList_inj]
  | afterFuture =>
      refine (reads.append (closing " > Dates.add(\"day\", " ", Dates.queryTime())")).of_eq ?_
      simp [OperatorShape.apply, ← String.toList_inj]
  | includes negated =>
      refine Frame.Renders.signed (.of_eq (reads.append (closing ".any((s) => s == " ")")) ?_)
        negated
      simp [OperatorShape.elementName, ← String.toList_inj]

theorem DataType.renders_frame {subject : String} {left : Frame} {value : Term}
    (reads : left.Renders subject [] value.code) {dataType : DataType} {operator : Operator}
    {operand : String} {entry : OperatorEntry} {literal : Literal}
    (supported : dataType.findOperator operator = .ok entry)
    (read : Literal.read (entry.operandTypeFor dataType) operand entry.stereotype = .ok literal)
    : (dataType.frame left operator).Renders subject [operand]
        (entry.generate value (.literal literal)).code := by
  unfold frame
  rw [supported]
  exact entry.shape.renders_frame reads (map_eq_ok.mpr ⟨literal, read, rfl⟩)

/-- The frame of a relationship around the frame of its query, if there is one. Only collections
and singular relationships have frames.
-/
def Relationship.frame (relationship : Relationship) (subject : Frame) (nested : Option Frame)
    : Frame :=
  match relationship.shape, nested with
  | .collection, none => (subject.member relationship.id).within "!" ".empty()"
  | .singular, none => (subject.member relationship.id).within "!!(" ")"
  | .collection, some nested =>
      subject.member relationship.id ++ nested.within ".any((s) => " ")"
  | .singular, some nested =>
      (subject.member relationship.id).within "(!!" " && " ++ (nested ++ [.code ")"])
  | .written _ _, _ => []

/-- The frame of the subject that the query of a relationship reads. -/
def Relationship.scopeFrame (relationship : Relationship) (subject : Frame) : Frame :=
  match relationship.shape with
  | .collection => [.code Relationship.elementName]
  | .singular => subject.member relationship.id
  | .written _ _ => []

/-- The frame of an arm around the frame of its guard. -/
def TypeArm.frame (selector : String) (guard : Frame) : Frame :=
  guard.within (selector ++ " ts => (!!ts && ") ")"

/-- The frame of an insight test. Badges are read as strings. -/
def Frame.insight (subject : Frame) : Frame :=
  subject.member ObjectType.insightsId
    ++ [.code ".any((insight) => insight.badge == ", .operand ⟨.string, none⟩, .code ")"]

namespace Expression

mutual

/-- The frame of an expression. It is empty where a name that is looked up is not there. -/
def frame (schema : Schema) (type : ObjectType) (subject : Frame) : Expression → Frame
  | .boolean combiner members =>
      (Frame.joined (" " ++ combiner.symbol ++ " ") (frames schema type subject members)).within
        "(" ")"
  | .property id operator _ =>
      match type.property? id with
      | none => []
      | some declared => declared.dataType.frame (subject.member id) operator
  | .relationship negated id query =>
      match type.relationship? id with
      | none => []
      | some declared =>
          (declared.frame subject
            (queryFrame schema declared.target (declared.scopeFrame subject) query)).negateIf
            negated
  | .name operator _ =>
      match type.naming with
      | some (.member id) => DataType.string.frame (subject.member id) operator
      | _ => []
  | .insight negated _ => subject.insight.negateIf negated
  | .typeSwitch arms =>
      subject.within "(" " match "
        ++ (Frame.joined ", " (armFrames schema arms) ++ [.code ", else false)"])
termination_by structural expression => expression

def frames (schema : Schema) (type : ObjectType) (subject : Frame) : List Expression → List Frame
  | [] => []
  | expression :: rest =>
      expression.frame schema type subject :: frames schema type subject rest
termination_by structural expressions => expressions

/-- The frame of a query on entities of the type called `target`, if there is a query. -/
def queryFrame (schema : Schema) (target : String) (subject : Frame)
    : Option Expression → Option Frame
  | none => none
  | some query =>
      match schema.get? target with
      | none => some []
      | some type => some (query.frame schema type subject)
termination_by structural query => query

def armFrames (schema : Schema) : List TypeArm → List Frame
  | [] => []
  | arm :: rest => armFrame schema arm :: armFrames schema rest
termination_by structural arms => arms

/-- The frame of an arm. An arm without a query has the guard `true`. -/
def armFrame (schema : Schema) : TypeArm → Frame
  | .arm selector query =>
      TypeArm.frame selector
        ((queryFrame schema selector [.code Compiler.narrowedName] query).getD [.code "true"])
termination_by structural arm => arm

end

theorem frames_eq (schema : Schema) (type : ObjectType) (subject : Frame)
    (members : List Expression)
    : frames schema type subject members = members.map (frame schema type subject) :=
  eq_map rfl (fun _ _ => rfl) members

theorem armFrames_eq (schema : Schema) (arms : List TypeArm)
    : armFrames schema arms = arms.map (armFrame schema) :=
  eq_map rfl (fun _ _ => rfl) arms

end Expression

namespace Compiler

theorem renders_frames {compiler : Compiler} {type : ObjectType} {value : Term} {depth : Nat}
    {subject : String} {start : Frame} {members : List Expression} {terms : List Term}
    (compiled
      : List.Forall₂ (fun member term => compiler.node type value depth member = .ok term)
          members terms)
    (each
      : ∀ member ∈ members, ∀ term,
          compiler.node type value depth member = .ok term
          → (member.frame compiler.schema type start).Renders subject member.operands term.code)
    : Frame.RendersAll subject (Expression.frames compiler.schema type start members)
        (Expression.operandsOf members) (Term.codes terms) := by
  induction compiled with
  | nil => exact .nil
  | cons first rest ih =>
      have inRest := ih fun member present => each member (List.mem_cons_of_mem _ present)
      simpa only [Expression.frames, Expression.operandsOf, Term.codes_cons] using
        Frame.RendersAll.cons (each _ List.mem_cons_self _ first) inRest

theorem renders_armFrame {subject : String} {frame : Frame} {operands : List String}
    {guard : Term} (renders : frame.Renders subject operands guard.code) (selector : String)
    : (TypeArm.frame selector frame).Renders subject operands
        (Term.armCode narrowedName (selector, narrowed guard)) := by
  refine (renders.within (selector ++ " ts => (!!ts && ") ")").of_eq ?_
  simp [narrowed, narrowedName, Term.present, Combiner.symbol, ← String.toList_inj]

theorem renders_armFrames {compiler : Compiler} {depth : Nat} {subject : String}
    {arms : List TypeArm} {terms : List (String × Term)}
    (compiled : List.Forall₂ (compiler.ArmTerm depth) arms terms)
    (each
      : ∀ selector query, TypeArm.arm selector (some query) ∈ arms → ∀ type guard,
          compiler.schema.require selector = .ok type
          → compiler.node type (.name narrowedName) (depth + 1) query = .ok guard
          → (query.frame compiler.schema type [.code narrowedName]).Renders subject
              query.operands guard.code)
    : Frame.RendersAll subject (Expression.armFrames compiler.schema arms)
        (Expression.armOperandsOf arms) (Term.armCodes narrowedName terms) := by
  induction compiled with
  | nil => exact .nil
  | cons first rest ih =>
      have inRest := ih fun selector query present =>
        each selector query (List.mem_cons_of_mem _ present)
      simp only [Expression.armFrames, Expression.armOperandsOf, Term.armCodes_cons]
      refine .cons ?_ inRest
      cases first with
      | always found =>
          simp only [Expression.armFrame, Expression.queryFrame, Option.getD_none,
            Expression.armOperands, Expression.queryOperands]
          exact renders_armFrame (Frame.renders_code "true") _
      | guarded found holds =>
          -- The frame looks the type up again, by the name that the arm was compiled with.
          have known := Schema.require_eq_ok.mp found
          simp only [Expression.armFrame, Expression.queryFrame, known, Option.getD_some,
            Expression.armOperands, Expression.queryOperands]
          exact renders_armFrame (each _ _ List.mem_cons_self _ _ found holds) _

theorem renders_existing {relationship : Relationship}
    (plain : relationship.shape = .collection ∨ relationship.shape = .singular)
    {subject : String} {start : Frame} {value : Term} (reads : start.Renders subject [] value.code)
    : (relationship.frame start none).Renders subject [] (relationship.existing value).code := by
  rcases plain with shape | shape
  · simp only [Relationship.frame, Relationship.existing, shape]
    refine ((reads.member relationship.id).within "!" ".empty()").of_eq ?_
    simp [Relationship.related, ← String.toList_inj]
  · simp only [Relationship.frame, Relationship.existing, shape]
    refine ((reads.member relationship.id).within "!!(" ")").of_eq ?_
    simp [Relationship.related, Term.present, ← String.toList_inj]

section wrapping

variable {relationship : Relationship} {subject : String} {start : Frame} {value : Term}
  {wrapping : Wrapping} (wraps : relationship.wrapping? value = some wrapping)
  (reads : start.Renders subject [] value.code)
include wraps reads

/-- The subject of a query renders to the subject that the relationship chooses for it. -/
theorem renders_scope
    : (relationship.scopeFrame start).Renders subject [] wrapping.inner.code := by
  obtain ⟨shape, rfl⟩ | ⟨shape, rfl⟩ := Relationship.shape_of_wrapping? wraps
  · rw [Relationship.scopeFrame, shape]
    exact Frame.renders_code Relationship.elementName
  · rw [Relationship.scopeFrame, shape]
    exact reads.member relationship.id

/-- The frame of a relationship renders to the test that some related entity satisfies the query. -/
theorem renders_wrapping {frame : Frame} {nested : Term} {operands : List String}
    (holds : frame.Renders subject operands nested.code)
    : (relationship.frame start (some frame)).Renders subject operands
        (wrapping.around nested).code := by
  obtain ⟨shape, rfl⟩ | ⟨shape, rfl⟩ := Relationship.shape_of_wrapping? wraps
  · simp only [Relationship.frame, shape]
    refine ((reads.member relationship.id).append (holds.within ".any((s) => " ")")).of_eq ?_
    simp [Wrapping.anyOf, Relationship.related, Relationship.elementName, ← String.toList_inj]
  · simp only [Relationship.frame, shape]
    have closed := holds.append (Frame.renders_code ")")
    rw [List.append_nil] at closed
    refine (((reads.member relationship.id).within "(!!" " && ").append closed).of_eq ?_
    simp [Wrapping.oneOf, Relationship.related, Term.present, Combiner.symbol,
      ← String.toList_inj]

end wrapping

/-- What an expression compiles to is its frame with the literals of its operands in place, by
induction on the expression.
-/
theorem renders_frame {compiler : Compiler} (plain : compiler.schema.Plain) {subject : String}
    {type : ObjectType} (plainType : type.Plain) {start : Frame} {value : Term}
    (reads : start.Renders subject [] value.code) {depth : Nat} {expression : Expression}
    {term : Term} (compiled : compiler.node type value depth expression = .ok term)
    : (expression.frame compiler.schema type start).Renders subject expression.operands
        term.code := by
  induction expression generalizing type start value depth term with
  | boolean combiner members ih =>
      cases (node_eq_ok.mp compiled).2 with
      | boolean nonempty each =>
          have terms := renders_frames each fun member present _ found =>
            ih member present plainType reads found
          refine ((terms.joined (" " ++ combiner.symbol ++ " ")).within "(" ")").of_eq ?_
          rw [Term.code_group, Term.code_connect]
  | property id operator operand =>
      cases (node_eq_ok.mp compiled).2 with
      | property found supported read =>
          simp only [Expression.frame, found, Property.access,
            plainType.accessor_of_property? found, Accessor.read]
          exact DataType.renders_frame (reads.member id) supported read
  | relationship negated id query ih =>
      cases (node_eq_ok.mp compiled).2 with
      | existing found =>
          simp only [Expression.frame, found, Expression.queryFrame, Expression.operands,
            Expression.queryOperands]
          exact (renders_existing (plainType.shape_of_relationship? found) reads).negateIf negated
      | matching found known wraps holds =>
          have inner := ih _ rfl (plain.of_require known) (renders_scope wraps reads) holds
          simp only [Expression.frame, found, Expression.queryFrame, Schema.require_eq_ok.mp known,
            Expression.operands, Expression.queryOperands]
          exact (renders_wrapping wraps reads inner).negateIf negated
      | written found _ free => exact absurd free (plainType.wrapping?_ne_none found _)
  | name operator operand =>
      cases (node_eq_ok.mp compiled).2 with
      | name named supported read =>
          obtain ⟨id, rfl⟩ := plainType.naming _ named
          simp only [Expression.frame, named, Accessor.read]
          exact DataType.renders_frame (reads.member id) supported read
  | insight negated badge =>
      cases (node_eq_ok.mp compiled).2 with
      | insight capable =>
          refine Frame.Renders.negateIf (.of_eq ((reads.member ObjectType.insightsId).append
            (.code (.operand rfl (Frame.renders_code ")")))) ?_) negated
          simp [insightName, ← String.toList_inj]
  | typeSwitch arms ih =>
      cases (node_eq_ok.mp compiled).2 with
      | typeSwitch nonempty each =>
          have chosen
              : Frame.RendersAll subject (Expression.armFrames compiler.schema arms)
                  (Expression.armOperandsOf arms) _ :=
            renders_armFrames each fun selector query present _ _ found holds =>
              ih selector query present (plain.of_require found)
                (Frame.renders_code narrowedName) holds
          have closed := (chosen.joined ", ").append (Frame.renders_code ", else false)")
          rw [List.append_nil] at closed
          refine ((reads.within "(" " match ").append closed).of_eq ?_
          simp [← String.toList_inj]

end Compiler

end QueryTree
