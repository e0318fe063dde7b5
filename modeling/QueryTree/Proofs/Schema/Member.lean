import QueryTree.Proofs.Outcome
import QueryTree.Schema.Basic

/-! How relationships wrap up their queries. A collection and a singular relationship compile the
query once, for a subject that they choose, and put code around the predicate. Functions may do
anything with it: look at the subject, compile the query again and again, or pass over its faults.
What some results ask of such functions is said here, and every other relationship has it.
-/

namespace QueryTree

/-- The subject of a nested query, and the code around the nested predicate. -/
structure Wrapping where
  inner : Term
  around : Term → Term

namespace Wrapping

/-- Some element of a collection satisfies the predicate, which reads it as a variable. -/
def anyOf (related : Term) : Wrapping :=
  ⟨.name Relationship.elementName, .any related Relationship.elementName⟩

/-- There is an entity, and it satisfies the predicate. -/
def oneOf (related : Term) : Wrapping :=
  ⟨related, fun predicate => .group (.connect .and [Term.present related, predicate])⟩

end Wrapping

namespace Relationship

variable {relationship : Relationship} {subject : Term} {wrapping : Wrapping}

/-- How a relationship wraps up its query, if it is not left to functions. -/
def wrapping? (relationship : Relationship) (subject : Term) : Option Wrapping :=
  match relationship.shape with
  | .collection => Wrapping.anyOf (relationship.related subject)
  | .singular => Wrapping.oneOf (relationship.related subject)
  | .written _ _ => none

theorem shape_of_wrapping? (wraps : relationship.wrapping? subject = some wrapping)
    : relationship.shape = .collection ∧ wrapping = .anyOf (relationship.related subject)
      ∨ relationship.shape = .singular ∧ wrapping = .oneOf (relationship.related subject) := by
  unfold wrapping? at wraps
  cases shape : relationship.shape with
  | collection => exact .inl ⟨rfl, by simpa [shape, eq_comm] using wraps⟩
  | singular => exact .inr ⟨rfl, by simpa [shape, eq_comm] using wraps⟩
  | written onMatch onExistence => simp [shape] at wraps

theorem matching_of_wrapping? (wraps : relationship.wrapping? subject = some wrapping)
    (nested : Term → Except CompileFault Term)
    : relationship.matching subject nested = (nested wrapping.inner).map wrapping.around := by
  unfold matching
  obtain ⟨shape, rfl⟩ | ⟨shape, rfl⟩ := shape_of_wrapping? wraps
  · rw [shape]
    rfl
  · rw [shape]
    rfl

/-- Whether the match is written, and with which fault it is not, is the same for all subjects if it
is the same for the nested query.
-/
def Blind (relationship : Relationship) : Prop :=
  ∀ left right one two,
    (∀ inner other, verdict (one inner) = verdict (two other))
    → verdict (relationship.matching left one) = verdict (relationship.matching right two)

/-- The match keeps its code if the nested query keeps its code, even if that is written for more
subjects.
-/
def Steady (relationship : Relationship) : Prop :=
  ∀ subject nested more,
    (∀ inner predicate, nested inner = .ok predicate → more inner = .ok predicate)
    → ∀ code, relationship.matching subject nested = .ok code
      → relationship.matching subject more = .ok code

/-- The query is compiled once, for a subject that the relationship chooses, and code is put around
the predicate.
-/
def WrapsOnce (relationship : Relationship) : Prop :=
  ∀ subject, ∃ wrapping : Wrapping, ∀ nested,
    relationship.matching subject nested = (nested wrapping.inner).map wrapping.around

theorem wrapping?_ne_none
    (shape : relationship.shape = .collection ∨ relationship.shape = .singular) (subject : Term)
    : relationship.wrapping? subject ≠ none := by
  rcases shape with shape | shape <;> simp [wrapping?, shape]

/-- Every relationship that is not left to functions compiles its query once. -/
theorem wrapsOnce_of_shape
    (shape : relationship.shape = .collection ∨ relationship.shape = .singular)
    : relationship.WrapsOnce := by
  intro subject
  obtain ⟨wrapping, wraps⟩ := Option.ne_none_iff_exists'.mp (wrapping?_ne_none shape subject)
  exact ⟨wrapping, matching_of_wrapping? wraps⟩

/-- So does a function that fills a predicate into a text of its own. -/
theorem wrapsOnce_of_written {inner onExistence : String → String}
    {around : String → String → String}
    (shape
      : relationship.shape
        = .written (fun subject nested => (nested (inner subject)).map (around subject))
            onExistence)
    : relationship.WrapsOnce := by
  intro subject
  refine ⟨⟨.name (inner subject.code), fun predicate => .name (around subject.code predicate.code)⟩,
    fun nested => ?_⟩
  simp only [matching, shape]
  cases nested (.name (inner subject.code)) <;> rfl

theorem WrapsOnce.blind (wraps : relationship.WrapsOnce) : relationship.Blind := by
  intro left right one two alike
  obtain ⟨here, leftWraps⟩ := wraps left
  obtain ⟨there, rightWraps⟩ := wraps right
  rw [leftWraps, rightWraps, verdict_map, verdict_map]
  exact alike _ _

theorem WrapsOnce.steady (wraps : relationship.WrapsOnce) : relationship.Steady := by
  intro subject nested more keeps code done
  obtain ⟨wrapping, once⟩ := wraps subject
  rw [once] at done ⊢
  obtain ⟨predicate, holds, rfl⟩ := map_eq_ok.mp done
  exact map_eq_ok.mpr ⟨predicate, keeps _ _ holds, rfl⟩

end Relationship

/-- No relationship of the type looks at its subject. -/
def ObjectType.Blind (type : ObjectType) : Prop :=
  ∀ relationship ∈ type.relationships, relationship.Blind

/-- All relationships of the type keep the code of what compiles. -/
def ObjectType.Steady (type : ObjectType) : Prop :=
  ∀ relationship ∈ type.relationships, relationship.Steady

namespace Schema

def Blind (schema : Schema) : Prop :=
  ∀ name type, schema.get? name = some type → type.Blind

def Steady (schema : Schema) : Prop :=
  ∀ name type, schema.get? name = some type → type.Steady

theorem require_eq_ok {schema : Schema} {name : String} {type : ObjectType}
    : schema.require name = .ok type ↔ schema.get? name = some type := by
  unfold require
  cases schema.get? name with
  | none => simp
  | some found => simp

theorem Blind.of_require {schema : Schema} (blind : schema.Blind) {name : String}
    {type : ObjectType} (found : schema.require name = .ok type)
    : type.Blind :=
  blind name type (require_eq_ok.mp found)

theorem Steady.of_require {schema : Schema} (steady : schema.Steady) {name : String}
    {type : ObjectType} (found : schema.require name = .ok type)
    : type.Steady :=
  steady name type (require_eq_ok.mp found)

end Schema

end QueryTree
