import QueryTree.Proofs.Code.Lines
import QueryTree.Proofs.Compile.Place
import QueryTree.Proofs.Expression.Induction
import QueryTree.Proofs.Schema.Plain

/-! Line breaks in the code of an expression. Every operand and badge of the expression goes into
its code, and so does every name that it looks up; all else in the code is the subject and fixed
code. So the code breaks exactly where the subject or one of these texts does.
-/

namespace QueryTree

open Text (Breaks)

def Accessor.texts : Accessor → List String
  | .member id => [id]
  | .written _ => []

/-- The texts that a place puts into the code: an operand or a badge, and the name of what is read
or chosen.
-/
def Place.texts : Place → List String
  | .node type _ expression =>
      match expression with
      | .property id _ operand => [id, operand]
      | .name _ operand => type.naming.toList.flatMap Accessor.texts ++ [operand]
      | .relationship _ id _ => [id]
      | .insight _ badge => [badge]
      | .boolean _ _ | .typeSwitch _ => []
  | .selector name => [name]

/-- Some place puts a line break into the code. -/
def BreaksIn (places : List Place) : Prop :=
  ∃ place ∈ places, ∃ text ∈ place.texts, Breaks text

instance : DecidablePred BreaksIn :=
  fun places => inferInstanceAs (Decidable (∃ place ∈ places, ∃ text ∈ place.texts, Breaks text))

@[simp]
theorem breaksIn_nil : BreaksIn [] ↔ False := by
  simp [BreaksIn]

@[simp]
theorem breaksIn_cons {place : Place} {rest : List Place}
    : BreaksIn (place :: rest) ↔ (∃ text ∈ place.texts, Breaks text) ∨ BreaksIn rest := by
  simp [BreaksIn]

@[simp]
theorem breaksIn_append {places rest : List Place}
    : BreaksIn (places ++ rest) ↔ BreaksIn places ∨ BreaksIn rest := by
  simp [BreaksIn, or_and_right, exists_or]

namespace Compiler

variable {compiler : Compiler} {type : ObjectType} {subject : Term} {depth : Nat}

/-- What is built around a term adds no line break of its own. -/
theorem breaks_negateIf (negated : Bool) (term : Term)
    : Breaks (negateIf negated term).code ↔ Breaks term.code := by
  cases negated <;> simp +decide [negateIf, Term.negation]

theorem breaks_narrowed (guard : Term) : Breaks (narrowed guard).code ↔ Breaks guard.code := by
  simp +decide [narrowed, Term.present, narrowedName]

theorem breaks_existing {relationship : Relationship}
    (plain : relationship.shape = .collection ∨ relationship.shape = .singular) (subject : Term)
    : Breaks (relationship.existing subject).code
      ↔ Breaks subject.code ∨ Breaks relationship.id := by
  rcases plain with shape | shape <;>
    simp +decide [Relationship.existing, shape, Relationship.related, Term.present]

/-- A relationship with a query breaks where its subject, its name or the query does, though only a
singular one hands its name on to the query as well.
-/
theorem breaks_wrapping {relationship : Relationship} {subject nested : Term}
    {wrapping : Wrapping} (wraps : relationship.wrapping? subject = some wrapping) {below : Prop}
    (breaks : Breaks nested.code ↔ Breaks wrapping.inner.code ∨ below)
    : Breaks (wrapping.around nested).code
      ↔ Breaks subject.code ∨ Breaks relationship.id ∨ below := by
  obtain ⟨_, rfl⟩ | ⟨_, rfl⟩ := Relationship.shape_of_wrapping? wraps
  · have fixed : ¬Breaks (Term.name Relationship.elementName).code := by decide
    rw [Wrapping.anyOf, or_iff_right fixed] at breaks
    simp +decide [Wrapping.anyOf, Relationship.related, breaks, or_assoc]
  · rw [Wrapping.oneOf] at breaks
    simp +decide [Wrapping.oneOf, Relationship.related, Term.present, breaks]
    exact or_assoc

theorem breaks_members {members : List Expression} {terms : List Term}
    (compiled
      : List.Forall₂ (fun member term => compiler.node type subject depth member = .ok term)
          members terms)
    (each
      : ∀ member ∈ members, ∀ term, compiler.node type subject depth member = .ok term →
          (Breaks term.code
            ↔ Breaks subject.code ∨ BreaksIn (member.places compiler.schema type depth)))
    : (∃ text ∈ Term.codes terms, Breaks text)
      ↔ (members ≠ [] ∧ Breaks subject.code)
        ∨ BreaksIn (Expression.memberPlaces compiler.schema type depth members) := by
  induction compiled with
  | nil => simp [Expression.memberPlaces]
  | cons first rest ih =>
      have here := each _ List.mem_cons_self _ first
      have after := ih fun member present => each member (List.mem_cons_of_mem _ present)
      simp only [Term.codes_cons, List.mem_cons, exists_eq_or_imp, here, after,
        Expression.memberPlaces, breaksIn_append]
      by_cases breaks : Breaks subject.code <;> simp [breaks]

theorem breaks_arms {arms : List TypeArm} {terms : List (String × Term)}
    (compiled : List.Forall₂ (compiler.ArmTerm depth) arms terms)
    (each
      : ∀ selector query, TypeArm.arm selector (some query) ∈ arms → ∀ type guard,
          compiler.schema.require selector = .ok type
          → compiler.node type (.name narrowedName) (depth + 1) query = .ok guard
          → (Breaks guard.code
            ↔ Breaks narrowedName ∨ BreaksIn (query.places compiler.schema type (depth + 1))))
    : (∃ text ∈ Term.armCodes narrowedName terms, Breaks text)
      ↔ BreaksIn (Expression.armsPlaces compiler.schema (depth + 1) arms) := by
  induction compiled with
  | nil => simp [Expression.armsPlaces, Term.armCodes_eq_map]
  | cons first rest ih =>
      have after := ih fun selector query present =>
        each selector query (List.mem_cons_of_mem _ present)
      have fixed : ¬Breaks narrowedName := by decide
      simp only [Term.armCodes_cons, List.mem_cons, exists_eq_or_imp, after,
        Expression.armsPlaces, breaksIn_append]
      refine or_congr_left ?_
      cases first with
      | always found =>
          simp +decide [Expression.armPlaces, Expression.queryPlaces, Place.texts]
      | guarded found holds =>
          have inner := each _ _ List.mem_cons_self _ _ found holds
          rw [or_iff_right fixed] at inner
          simp +decide [breaks_narrowed, inner, Expression.armPlaces, Expression.queryPlaces,
            Schema.require_eq_ok.mp found, Place.texts]

/-- The code of an expression breaks where its subject or one of its texts does, by induction on the
expression.
-/
theorem breaks_node (plain : compiler.schema.Plain) (plainType : type.Plain)
    {expression : Expression} {term : Term}
    (compiled : compiler.node type subject depth expression = .ok term)
    : Breaks term.code
      ↔ Breaks subject.code ∨ BreaksIn (expression.places compiler.schema type depth) := by
  induction expression generalizing type subject depth term with
  | boolean combiner members ih =>
      cases (node_eq_ok.mp compiled).2 with
      | boolean nonempty each =>
          have inner := breaks_members each fun member present _ found =>
            ih member present plainType found
          have separator : ¬Breaks (" " ++ combiner.symbol ++ " ") := by
            cases combiner <;> decide
          have fixed : ¬Breaks "(" ∧ ¬Breaks ")" := by decide
          simp only [Term.code_group, Term.code_connect, Text.breaks_append,
            Text.breaks_intercalate separator, inner, Expression.places, breaksIn_cons, Place.texts]
          simp [fixed, nonempty]
  | property id operator operand =>
      cases (node_eq_ok.mp compiled).2 with
      | property found supported read =>
          rw [OperatorEntry.breaks_generate supported read, Property.access,
            plainType.accessor_of_property? found]
          simp +decide [Accessor.read, Expression.places, Place.texts, or_assoc]
  | relationship negated id query ih =>
      cases (node_eq_ok.mp compiled).2 with
      | existing found =>
          have shape := plainType.shape_of_relationship? found
          rw [breaks_negateIf, breaks_existing shape, ObjectType.id_of_relationship? found]
          simp [Expression.places, found, Expression.queryPlaces, Place.texts]
      | matching found known wraps holds =>
          have inner := ih _ rfl (plain.of_require known) holds
          rw [breaks_negateIf, breaks_wrapping wraps inner, ObjectType.id_of_relationship? found]
          simp [Expression.places, found, Expression.queryPlaces, Schema.require_eq_ok.mp known,
            Place.texts]
      | written found _ free => exact absurd free (plainType.wrapping?_ne_none found _)
  | name operator operand =>
      cases (node_eq_ok.mp compiled).2 with
      | name named supported read =>
          obtain ⟨id, rfl⟩ := plainType.naming _ named
          rw [OperatorEntry.breaks_generate supported read]
          simp +decide [Accessor.read, Expression.places, Place.texts, named, Accessor.texts,
            or_assoc]
  | insight negated badge =>
      cases (node_eq_ok.mp compiled).2 with
      | insight capable =>
          have quoted : Breaks (Literal.text badge).code ↔ Breaks badge := Text.breaks_quote badge
          rw [breaks_negateIf]
          simp +decide [ObjectType.insightsId, insightName, quoted, Expression.places, Place.texts]
  | typeSwitch arms ih =>
      cases (node_eq_ok.mp compiled).2 with
      | typeSwitch nonempty each =>
          have inner := breaks_arms each fun selector query present _ _ found holds =>
            ih selector query present (plain.of_require found) holds
          have separator : ¬Breaks ", " := by decide
          simp +decide [Text.breaks_intercalate separator, inner, Expression.places, Place.texts]

end Compiler

end QueryTree
