import Mathlib.Data.List.Basic
import QueryTree.Proofs.Schema.Description

/-! The supertypes of an object type. Put together step by step, a type has each supertype once, in
the order in which they were first named. A document is taken at its word: a supertype that it
repeats is repeated in the schema.
-/

namespace QueryTree

/-- A list holds just the given names, each of them once, in the order in which they first occur. -/
structure FirstOccurrences (given found : List String) : Prop where
  nodup : found.Nodup
  mem_iff : ∀ name, name ∈ found ↔ name ∈ given
  in_order : found.Pairwise fun earlier later => given.idxOf earlier < given.idxOf later

namespace FirstOccurrences

variable {given found : List String} {name : String}

theorem nil : FirstOccurrences [] [] where
  nodup := .nil
  mem_iff _ := .rfl
  in_order := .nil

/-- Names keep their places when another one is given behind them. -/
theorem in_order_append (occurrences : FirstOccurrences given found) (name : String)
    : found.Pairwise fun earlier later =>
        (given ++ [name]).idxOf earlier < (given ++ [name]).idxOf later := by
  refine occurrences.in_order.imp_of_mem ?_
  intro earlier later first second before
  rw [List.idxOf_append_of_mem ((occurrences.mem_iff earlier).mp first),
    List.idxOf_append_of_mem ((occurrences.mem_iff later).mp second)]
  exact before

/-- A name that occurred before adds nothing. -/
theorem again (occurrences : FirstOccurrences given found) (old : name ∈ found)
    : FirstOccurrences (given ++ [name]) found where
  nodup := occurrences.nodup
  mem_iff other := by
    rw [List.mem_append, List.mem_singleton, ← occurrences.mem_iff]
    constructor
    · exact .inl
    · intro present
      rcases present with present | rfl
      · exact present
      · exact old
  in_order := occurrences.in_order_append name

/-- A new name comes last. -/
theorem snoc (occurrences : FirstOccurrences given found) (new : name ∉ found)
    : FirstOccurrences (given ++ [name]) (found ++ [name]) where
  nodup := by
    refine List.nodup_append.mpr ⟨occurrences.nodup, List.pairwise_singleton .., ?_⟩
    intro old present other last same
    obtain rfl := List.mem_singleton.mp last
    exact new (same ▸ present)
  mem_iff other := by
    rw [List.mem_append, List.mem_append, occurrences.mem_iff]
  in_order := by
    refine List.pairwise_append.mpr
      ⟨occurrences.in_order_append name, List.pairwise_singleton .., ?_⟩
    intro old present other last
    obtain rfl := List.mem_singleton.mp last
    have wasGiven := (occurrences.mem_iff old).mp present
    have notGiven := mt (occurrences.mem_iff other).mpr new
    rw [List.idxOf_append_of_mem wasGiven, List.idxOf_append_of_notMem notGiven]
    exact Nat.lt_of_lt_of_le (List.idxOf_lt_length_of_mem wasGiven) (Nat.le_add_right ..)

/-- Names that are given once each are their own first occurrences. -/
theorem self_iff : FirstOccurrences given given ↔ given.Nodup := by
  constructor
  · exact nodup
  · intro nodup
    refine ⟨nodup, fun _ => .rfl, List.pairwise_iff_getElem.mpr ?_⟩
    intro first second inside insideToo before
    rwa [nodup.idxOf_getElem, nodup.idxOf_getElem]

end FirstOccurrences

namespace ObjectType

/-- A step in putting an object type together. -/
inductive Step where
  | supertype (name : String)
  | property (property : Property)
  | relationship (relationship : Relationship)
  | naming (naming : Accessor)

namespace Step

def apply (type : ObjectType) : Step → ObjectType
  | .supertype name => type.withSupertype name
  | .property added => type.withProperty added
  | .relationship added => type.withRelationship added
  | .naming added => type.withNaming added

/-- The supertype that a step names, if it names one. -/
def supertype? : Step → Option String
  | .supertype name => some name
  | .property _ | .relationship _ | .naming _ => none

end Step

/-- The object type that steps lead to from one without members. -/
def ofSteps (steps : List Step) : ObjectType :=
  steps.foldl Step.apply empty

theorem firstOccurrences_withSupertype {type : ObjectType} {given : List String}
    (occurrences : FirstOccurrences given type.supertypes) (name : String)
    : FirstOccurrences (given ++ [name]) (type.withSupertype name).supertypes := by
  unfold withSupertype
  split
  · rename_i old
    exact occurrences.again (by simpa using old)
  · rename_i new
    exact occurrences.snoc (by simpa using new)

/-- A step names one more supertype or none. -/
theorem firstOccurrences_apply {type : ObjectType} {given : List String}
    (occurrences : FirstOccurrences given type.supertypes) (step : Step)
    : FirstOccurrences (given ++ step.supertype?.toList) (Step.apply type step).supertypes := by
  cases step with
  | supertype name => exact firstOccurrences_withSupertype occurrences name
  | property | relationship | naming =>
      rw [Step.supertype?, Option.toList_none, List.append_nil]
      exact occurrences

/-- All along the steps the supertypes are the first occurrences of the names given so far, by
induction on the steps.
-/
theorem firstOccurrences_foldl {type : ObjectType} {given : List String}
    (occurrences : FirstOccurrences given type.supertypes) (steps : List Step)
    : FirstOccurrences (given ++ steps.filterMap Step.supertype?)
        (steps.foldl Step.apply type).supertypes := by
  induction steps generalizing type given with
  | nil =>
      rw [List.filterMap_nil, List.append_nil]
      exact occurrences
  | cons step rest ih =>
      have after := ih (firstOccurrences_apply occurrences step)
      rw [List.append_assoc] at after
      rw [List.foldl_cons, List.filterMap_cons]
      cases named : step.supertype? with
      | none => simpa [named] using after
      | some name => simpa [named] using after

end ObjectType

open SchemaDocument (TypeEntry)

/-- Steps give an object type the first occurrences of the supertypes they name. A document gives it
the supertypes as they are written, which are their own first occurrences exactly if none of them is
repeated.
-/
theorem ObjectType.supertypes_by_steps_or_as_written (steps : List Step)
    (document : SchemaDocument)
    : FirstOccurrences (steps.filterMap Step.supertype?) (ofSteps steps).supertypes
      ∧ ∀ schema,
          document.toSchema = .ok schema
          → ∀ name type,
              schema.get? name = some type
              → ∃ entry : TypeEntry,
                  document.types.get? name = some entry
                  ∧ type.supertypes = entry.supertypes
                  ∧ (FirstOccurrences entry.supertypes type.supertypes
                    ↔ entry.supertypes.Nodup) := by
  constructor
  · have start : FirstOccurrences [] empty.supertypes := .nil
    exact firstOccurrences_foldl start steps
  · intro schema valid name type found
    obtain ⟨entry, declared, rfl⟩ := SchemaDocument.exists_entry_of_get? valid found
    exact ⟨entry, declared, rfl, FirstOccurrences.self_iff⟩

namespace SchemaDocument

/-- A document with a node that repeats its supertype. -/
def repeated : SchemaDocument where
  types :=
    { entries := [("Node", ⟨["Root", "Root"], [], [], none⟩), ("Root", ⟨[], [], [], none⟩)]
      ascending := List.pairwise_pair.mpr (by decide) }

end SchemaDocument

/-- A supertype that is named twice is one supertype of a node put together by hand, and two of a
node in a document.
-/
theorem ObjectType.repeated_once_by_steps_twice_as_written
    : FirstOccurrences ["Root", "Root"] (ofSteps [.supertype "Root", .supertype "Root"]).supertypes
      ∧ SchemaDocument.repeated.toSchema
        = .ok (SchemaDocument.repeated.types.mapValues TypeEntry.toObjectType)
      ∧ ∃ type,
          (SchemaDocument.repeated.types.mapValues TypeEntry.toObjectType).get? "Node" = some type
          ∧ type.supertypes = ["Root", "Root"]
          ∧ ¬FirstOccurrences ["Root", "Root"] type.supertypes := by
  obtain ⟨bySteps, asWritten⟩ :=
    supertypes_by_steps_or_as_written [.supertype "Root", .supertype "Root"]
      SchemaDocument.repeated
  have valid
      : SchemaDocument.repeated.toSchema
        = .ok (SchemaDocument.repeated.types.mapValues TypeEntry.toObjectType) :=
    rfl
  obtain ⟨entry, declared, same, once⟩ := asWritten _ valid "Node" _ rfl
  obtain rfl := Option.some.inj declared
  refine ⟨bySteps, valid, _, rfl, same, ?_⟩
  exact fun occurrences => absurd (once.mp occurrences) (by decide)

end QueryTree
