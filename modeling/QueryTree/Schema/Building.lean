import QueryTree.Schema.Basic

/-! Schemas put together by hand, type by type or from a whole list of types at once. A list is
sorted by name, which keeps types of one name in their order, and of those only the last is taken.
-/

namespace QueryTree

namespace NameMap

variable {α : Type}

/-- Of entries with the same name that follow each other, only the last. -/
def lastOfRuns : List (String × α) → List (String × α)
  | [] => []
  | entry :: rest =>
      if rest.head?.any fun next => next.1 == entry.1 then lastOfRuns rest
      else entry :: lastOfRuns rest

/-- Whether an entry may stand before another one. -/
def inOrder (left right : String × α) : Bool :=
  left.1 ≤ right.1

/-- Nothing is taken that was not there, by induction on the list. -/
theorem lastOfRuns_sublist (entries : List (String × α))
    : (lastOfRuns entries).Sublist entries := by
  induction entries with
  | nil => exact .slnil
  | cons entry rest ih =>
      unfold lastOfRuns
      split
      · exact ih.cons entry
      · exact ih.cons_cons entry

/-- An entry that is the last of its run stands before entries of greater names only. -/
theorem lt_of_last {entry : String × α} {rest : List (String × α)}
    (sorted : (entry :: rest).Pairwise fun left right => inOrder left right)
    (last : ¬rest.head?.any fun next => next.1 == entry.1)
    : ∀ other ∈ rest, entry.1 < other.1 := by
  intro other member
  cases rest with
  | nil => cases member
  | cons next rest =>
      obtain ⟨before, later⟩ := List.pairwise_cons.mp sorted
      have le : entry.1 ≤ next.1 := of_decide_eq_true (before next List.mem_cons_self)
      have ne : next.1 ≠ entry.1 := by simpa using last
      have lt : entry.1 < next.1 :=
        String.not_le.mp fun ge => ne (String.le_antisymm ge le)
      rcases List.mem_cons.mp member with rfl | present
      · exact lt
      · have further : next.1 ≤ other.1 :=
          of_decide_eq_true ((List.pairwise_cons.mp later).1 other present)
        exact String.not_le.mp fun ge => String.not_le.mpr lt (String.le_trans further ge)

/-- Of entries in the order of their names, the last of each name increase strictly. -/
theorem ascending_lastOfRuns {entries : List (String × α)}
    (sorted : entries.Pairwise fun left right => inOrder left right)
    : Ascending (lastOfRuns entries) := by
  induction entries with
  | nil => exact .nil
  | cons entry rest ih =>
      have below := ih (List.pairwise_cons.mp sorted).2
      unfold lastOfRuns
      split
      · exact below
      · rename_i last
        refine List.pairwise_cons.mpr ⟨fun other member => ?_, below⟩
        exact lt_of_last sorted last other ((lastOfRuns_sublist rest).subset member)

theorem inOrder_trans (first second third : String × α)
    (left : inOrder first second = true) (right : inOrder second third = true)
    : inOrder first third = true :=
  decide_eq_true (String.le_trans (of_decide_eq_true left) (of_decide_eq_true right))

theorem inOrder_total (left right : String × α)
    : (inOrder left right || inOrder right left) = true := by
  simpa [inOrder] using String.le_total left.1 right.1

/-- The map of a list of names and values, sorted as a whole. -/
def collect (entries : List (String × α)) : NameMap α where
  entries := lastOfRuns (entries.mergeSort inOrder)
  ascending := ascending_lastOfRuns (List.pairwise_mergeSort inOrder_trans inOrder_total entries)

end NameMap

namespace Schema

/-- Puts a type under a name. The one that the name had before comes with the new schema. -/
def replace (schema : Schema) (name : String) (type : ObjectType) : Option ObjectType × Schema :=
  (schema.get? name, schema.insert name type)

/-- The schema with a type under a name, over the one it has already. -/
def withType (schema : Schema) (name : String) (type : ObjectType) : Schema :=
  (schema.replace name type).2

/-- The schema of a list of types. -/
def ofTypes (types : List (String × ObjectType)) : Schema :=
  NameMap.collect types

end Schema

end QueryTree
