import Mathlib.Data.Nat.Find
import Mathlib.Order.Bounds.Defs
import QueryTree.Proofs.Schema.NameMap
import QueryTree.Schema.Subtypes

/-! What the search for subtypes finds. It finds every type from which the name can be reached over
declared supertypes, the nearest types first. Types that were found from one parent stand in order
of their names, and the parents take their turns in the order in which they were found.
-/

namespace QueryTree.Schema

-----------------------------------------------------------------------------------------
-- Steps, distances and the order of a search
-----------------------------------------------------------------------------------------

/-- The type called `name` is there and declares `parent` as a supertype. -/
def Declares (schema : Schema) (name parent : String) : Prop :=
  ∃ type, schema.get? name = some type ∧ parent ∈ type.supertypes

/-- From one name to another in so many steps, each from a type to a supertype that it declares. -/
inductive Climbs (schema : Schema) : Nat → String → String → Prop
  | stay {name} : schema.Climbs 0 name name
  | step {steps name parent ancestor} (declared : schema.Declares name parent)
    (above : schema.Climbs steps parent ancestor)
    : schema.Climbs (steps + 1) name ancestor

/-- How many steps it takes at least from one name to another. -/
def Distance (schema : Schema) (name ancestor : String) (steps : Nat) : Prop :=
  IsLeast {count | schema.Climbs count name ancestor} steps

/-- Which of the names, in the order in which they are looked at, is the first that `name` declares
as a supertype.
-/
def turn (schema : Schema) (order : List String) (name : String) : Nat :=
  order.findIdx fun parent => schema.isChild parent name

/-- One name is found before another: from an earlier parent, or from the same parent and first in
order of the names.
-/
def Precedes (schema : Schema) (order : List String) (earlier later : String) : Prop :=
  schema.turn order earlier < schema.turn order later
  ∨ (schema.turn order earlier = schema.turn order later ∧ earlier < later)

/-- A list holds the subtypes of the type called `name`, each once, and in breadth-first order. -/
structure BreadthFirst (schema : Schema) (name : String) (found : List String) : Prop where
  nodup : found.Nodup
  mem_iff
    : ∀ subtype,
        subtype ∈ found ↔ subtype ≠ name ∧ ∃ steps, 0 < steps ∧ schema.Climbs steps subtype name
  nearest_first
    : found.Pairwise fun earlier later =>
        ∃ near far,
          schema.Distance earlier name near ∧ schema.Distance later name far ∧ near ≤ far
  parents_in_turn : found.Pairwise (schema.Precedes (name :: found))

theorem isChild_iff {schema : Schema} {parent name : String}
    : schema.isChild parent name = true ↔ schema.Declares name parent := by
  unfold isChild Declares
  cases schema.get? name <;> simp

theorem mem_names_of_declares {schema : Schema} {name parent : String}
    (declared : schema.Declares name parent)
    : name ∈ schema.names := by
  obtain ⟨type, found, _⟩ := declared
  exact List.mem_map_of_mem (NameMap.mem_of_get? found)

-----------------------------------------------------------------------------------------
-- What is found from one parent
-----------------------------------------------------------------------------------------

section newChildren

variable {schema : Schema} {visited : List String} {parent name : String}

theorem mem_newChildren
    : name ∈ schema.newChildren visited parent
      ↔ name ∉ visited ∧ schema.Declares name parent := by
  simp only [newChildren, unvisited, List.mem_filter, isChild_iff, List.contains_eq_mem,
    Bool.not_eq_true', decide_eq_false_iff_not]
  constructor
  · rintro ⟨⟨_, new⟩, declared⟩
    exact ⟨new, declared⟩
  · rintro ⟨new, declared⟩
    exact ⟨⟨mem_names_of_declares declared, new⟩, declared⟩

theorem ascending_newChildren : (schema.newChildren visited parent).Pairwise (· < ·) :=
  ((List.pairwise_map.mpr schema.ascending).filter _).filter _

theorem nodup_newChildren : (schema.newChildren visited parent).Nodup :=
  ascending_newChildren.imp String.ne_of_lt

end newChildren

/-- What holds all along the search, where `expanded` are the names that were looked at and `queue`
the names that wait: nothing stands in them twice, and whatever declares an expanded name stands in
them.
-/
structure Frontier (schema : Schema) (expanded queue : List String) : Prop where
  unique : (expanded ++ queue).Nodup
  closed
    : ∀ parent ∈ expanded, ∀ name, schema.Declares name parent → name ∈ expanded ++ queue

namespace Frontier

variable {schema : Schema} {visited expanded queue : List String} {parent name : String}

theorem start (schema : Schema) (name : String) : schema.Frontier [] [name] where
  unique := List.pairwise_singleton ..
  closed := by
    intro parent absent
    cases absent

/-- What has not been found yet declares none of the expanded names. -/
theorem not_declares (frontier : schema.Frontier expanded queue) (new : name ∉ expanded ++ queue)
    : ∀ parent ∈ expanded, ¬schema.Declares name parent := by
  intro parent present declared
  exact new (frontier.closed parent present name declared)

/-- Looking at the next name puts its new children at the end of the queue. -/
theorem expand (frontier : schema.Frontier expanded (parent :: queue))
    (seen : visited = expanded ++ parent :: queue)
    : schema.Frontier (expanded ++ [parent]) (queue ++ schema.newChildren visited parent)
      ∧ visited ++ schema.newChildren visited parent
        = expanded ++ [parent] ++ (queue ++ schema.newChildren visited parent) := by
  have whole
      : visited ++ schema.newChildren visited parent
        = expanded ++ [parent] ++ (queue ++ schema.newChildren visited parent) := by
    simp [seen]
  refine ⟨⟨?_, ?_⟩, whole⟩
  · rw [← whole]
    apply List.nodup_append.mpr
    refine ⟨seen ▸ frontier.unique, nodup_newChildren, ?_⟩
    rintro old present _ child rfl
    exact (mem_newChildren.mp child).1 present
  · intro other present name declared
    rw [← whole]
    by_cases old : name ∈ visited
    · exact List.mem_append_left _ old
    · apply List.mem_append_right
      rcases List.mem_append.mp present with before | last
      · exact absurd declared (frontier.not_declares (seen ▸ old) other before)
      · obtain rfl := List.mem_singleton.mp last
        exact mem_newChildren.mpr ⟨old, declared⟩

/-- In the end everything found has been looked at, by induction on the search. -/
theorem finish (frontier : schema.Frontier expanded queue) (seen : visited = expanded ++ queue)
    : schema.Frontier (visited ++ schema.discover visited queue) [] := by
  fun_induction discover schema visited queue generalizing expanded with
  | case1 visited =>
      rw [List.append_nil] at seen ⊢
      exact seen ▸ frontier
  | case2 visited parent queue =>
      rename_i children ih
      obtain ⟨next, whole⟩ := frontier.expand seen
      rw [← List.append_assoc]
      exact ih next whole

end Frontier

-----------------------------------------------------------------------------------------
-- The turn at which a name is found
-----------------------------------------------------------------------------------------

section turn

variable {schema : Schema} {expanded rest : List String} {parent name : String}

theorem turn_cons_of_declares (declared : schema.Declares name parent)
    : schema.turn (parent :: rest) name = 0 := by
  simp [turn, List.findIdx_cons, isChild_iff.mpr declared]

theorem turn_cons_of_not_declares (other : ¬schema.Declares name parent)
    : schema.turn (parent :: rest) name = schema.turn rest name + 1 := by
  have not_child := Bool.eq_false_iff.mpr (mt isChild_iff.mp other)
  simp [turn, List.findIdx_cons, not_child]

theorem turn_append (others : ∀ parent ∈ expanded, ¬schema.Declares name parent)
    : schema.turn (expanded ++ rest) name = schema.turn rest name + expanded.length := by
  induction expanded with
  | nil => rfl
  | cons parent expanded ih =>
      obtain ⟨other, others⟩ := List.forall_mem_cons.mp others
      rw [List.cons_append, turn_cons_of_not_declares other, ih others]
      rfl

end turn

-----------------------------------------------------------------------------------------
-- The order in which the search finds names
-----------------------------------------------------------------------------------------

namespace Frontier

variable {schema : Schema} {visited expanded queue rest : List String} {parent name : String}

/-- A new child is found when its parent is looked at. -/
theorem turn_child (frontier : schema.Frontier expanded (parent :: queue))
    (new : name ∉ expanded ++ parent :: queue) (declared : schema.Declares name parent)
    : schema.turn (expanded ++ parent :: rest) name = expanded.length := by
  rw [turn_append (frontier.not_declares new), turn_cons_of_declares declared, Nat.zero_add]

/-- What is new and no child is found after that. -/
theorem turn_later (frontier : schema.Frontier expanded (parent :: queue))
    (new : name ∉ expanded ++ parent :: queue) (other : ¬schema.Declares name parent)
    : expanded.length < schema.turn (expanded ++ parent :: rest) name := by
  rw [turn_append (frontier.not_declares new), turn_cons_of_not_declares other]
  omega

/-- What is found behind the children of a parent was not visited before, and is no child of it. -/
theorem new_of_mem_later {later : List String}
    (unique : (visited ++ (schema.newChildren visited parent ++ later)).Nodup)
    (present : name ∈ later)
    : name ∉ visited ∧ ¬schema.Declares name parent := by
  obtain ⟨_, found, apart⟩ := List.nodup_append.mp unique
  have new : name ∉ visited := by
    intro old
    exact apart name old name (List.mem_append_right _ present) rfl
  refine ⟨new, ?_⟩
  intro declared
  have child := mem_newChildren.mpr ⟨new, declared⟩
  exact (List.nodup_append.mp found).2.2 name child name present rfl

/-- The search finds names in the order of `Precedes`, by induction on the search. -/
theorem pairwise_discover (frontier : schema.Frontier expanded queue)
    (seen : visited = expanded ++ queue)
    : (schema.discover visited queue).Pairwise
        (schema.Precedes (visited ++ schema.discover visited queue)) := by
  fun_induction discover schema visited queue generalizing expanded with
  | case1 => exact .nil
  | case2 visited parent queue =>
      rename_i children ih
      obtain ⟨next, whole⟩ := frontier.expand seen
      have in_order := ih next whole
      have unique := (next.finish whole).unique
      rw [List.append_nil, List.append_assoc] at unique
      rw [List.append_assoc] at in_order
      generalize schema.discover (visited ++ children) (queue ++ children) = later at *
      have order
          : visited ++ (children ++ later)
            = expanded ++ parent :: (queue ++ (children ++ later)) := by
        simp [seen]
      have turn_of_child
          : ∀ name ∈ children,
              schema.turn (visited ++ (children ++ later)) name = expanded.length := by
        intro name present
        obtain ⟨new, declared⟩ := mem_newChildren.mp present
        rw [order]
        exact frontier.turn_child (seen ▸ new) declared
      have turn_after
          : ∀ name ∈ later,
              expanded.length < schema.turn (visited ++ (children ++ later)) name := by
        intro name present
        obtain ⟨new, other⟩ := new_of_mem_later unique present
        rw [order]
        exact frontier.turn_later (seen ▸ new) other
      apply List.pairwise_append.mpr
      refine ⟨?_, in_order, ?_⟩
      · apply ascending_newChildren.imp_of_mem
        intro earlier later before after smaller
        exact .inr ⟨by rw [turn_of_child _ before, turn_of_child _ after], smaller⟩
      · intro child found name present
        apply Or.inl
        rw [turn_of_child _ found]
        exact turn_after _ present

end Frontier

-----------------------------------------------------------------------------------------
-- Which names the search finds
-----------------------------------------------------------------------------------------

section climbs

variable {schema : Schema} {visited queue order : List String} {name parent ancestor : String}

theorem Climbs.snoc {steps : Nat} (above : schema.Climbs steps name parent)
    (declared : schema.Declares parent ancestor)
    : schema.Climbs (steps + 1) name ancestor := by
  induction above with
  | stay => exact .step declared .stay
  | step first _ ih => exact .step first (ih declared)

theorem exists_climbs_of_mem_discover (present : name ∈ schema.discover visited queue)
    : ∃ start ∈ queue, ∃ steps, 0 < steps ∧ schema.Climbs steps name start := by
  fun_induction discover schema visited queue with
  | case1 => cases present
  | case2 visited parent queue children ih =>
      rcases List.mem_append.mp present with child | later
      · have declared := (mem_newChildren.mp child).2
        exact ⟨parent, List.mem_cons_self, 1, Nat.one_pos, .step declared .stay⟩
      · obtain ⟨start, waiting, steps, some, above⟩ := ih later
        rcases List.mem_append.mp waiting with before | child
        · exact ⟨start, List.mem_cons_of_mem _ before, steps, some, above⟩
        · have declared := (mem_newChildren.mp child).2
          exact ⟨parent, List.mem_cons_self, steps + 1, Nat.succ_pos _, above.snoc declared⟩

/-- Once every name was looked at, nothing below one of them is missing. -/
theorem Frontier.mem_of_climbs {steps : Nat} (frontier : schema.Frontier order [])
    (above : schema.Climbs steps name ancestor) (present : ancestor ∈ order)
    : name ∈ order := by
  induction above with
  | stay => exact present
  | step declared _ ih =>
      have closed := frontier.closed _ (ih present) _ declared
      rwa [List.append_nil] at closed

end climbs

-----------------------------------------------------------------------------------------
-- The search from one name
-----------------------------------------------------------------------------------------

section subtypes

variable {schema : Schema} {name subtype : String}

theorem frontier_subtypes (schema : Schema) (name : String)
    : schema.Frontier (name :: schema.subtypes name) [] :=
  (Frontier.start schema name).finish rfl

theorem pairwise_subtypes (schema : Schema) (name : String)
    : (schema.subtypes name).Pairwise (schema.Precedes (name :: schema.subtypes name)) :=
  (Frontier.start schema name).pairwise_discover rfl

theorem nodup_subtypes (schema : Schema) (name : String)
    : (name :: schema.subtypes name).Nodup := by
  have unique := (frontier_subtypes schema name).unique
  rwa [List.append_nil] at unique

theorem mem_subtypes_iff
    : subtype ∈ schema.subtypes name
      ↔ subtype ≠ name ∧ ∃ steps, 0 < steps ∧ schema.Climbs steps subtype name := by
  constructor
  · intro present
    refine ⟨?_, ?_⟩
    · rintro rfl
      exact (List.nodup_cons.mp (nodup_subtypes schema subtype)).1 present
    · obtain ⟨start, waiting, climbs⟩ := exists_climbs_of_mem_discover present
      obtain rfl := List.mem_singleton.mp waiting
      exact climbs
  · rintro ⟨other, steps, _, above⟩
    have found := (frontier_subtypes schema name).mem_of_climbs above List.mem_cons_self
    exact (List.mem_cons.mp found).resolve_left other

/-- Subtypes are types of the schema. -/
theorem exists_type_of_mem_subtypes (present : subtype ∈ schema.subtypes name)
    : ∃ type, schema.get? subtype = some type := by
  obtain ⟨_, steps, some, above⟩ := mem_subtypes_iff.mp present
  cases above with
  | stay => exact absurd some (Nat.lt_irrefl 0)
  | step declared =>
      obtain ⟨type, found, _⟩ := declared
      exact ⟨type, found⟩

end subtypes

-----------------------------------------------------------------------------------------
-- The distances of the names that the search finds
-----------------------------------------------------------------------------------------

section distance

variable {schema : Schema} {order found : List String} {name ancestor : String}

theorem exists_distance {steps : Nat} (above : schema.Climbs steps name ancestor)
    : ∃ least, schema.Distance name ancestor least := by
  classical
  have reached : ∃ count, schema.Climbs count name ancestor := ⟨steps, above⟩
  exact ⟨Nat.find reached, Nat.find_spec reached, fun _ climbs => Nat.find_min' reached climbs⟩

theorem turn_le {index : Nat} {inside : index < order.length}
    (declared : schema.Declares name order[index])
    : schema.turn order name ≤ index := by
  apply Nat.le_of_not_lt
  intro before
  have not_child := List.not_of_lt_findIdx before
  rw [isChild_iff.mpr declared] at not_child
  cases not_child

theorem declares_turn (inside : schema.turn order name < order.length)
    : schema.Declares name order[schema.turn order name] :=
  isChild_iff.mp (List.findIdx_getElem (w := inside))

/-- Names that stand earlier were not found at a later turn. -/
theorem turn_mono (in_turn : found.Pairwise (schema.Precedes order)) {i j : Nat} (le : i ≤ j)
    (inside : j < found.length)
    : schema.turn order found[i] ≤ schema.turn order found[j] := by
  rcases Nat.eq_or_lt_of_le le with rfl | lt
  · exact Nat.le_refl _
  · rcases List.pairwise_iff_getElem.mp in_turn i j _ inside lt with earlier | ⟨same, _⟩
    · exact Nat.le_of_lt earlier
    · exact Nat.le_of_eq same

/-- What is found earlier reaches the queried name in as few steps, by induction on the steps: it
declares a name that stands no later than the one through which the other leads.
-/
theorem exists_climbs_of_le {steps i j : Nat} (le : i ≤ j)
    (inside : j < (schema.subtypes name).length)
    (above : schema.Climbs steps (schema.subtypes name)[j] name)
    : ∃ fewer ≤ steps, schema.Climbs fewer (schema.subtypes name)[i] name := by
  induction steps generalizing i j with
  | zero =>
      generalize later_is : (schema.subtypes name)[j] = later at above
      cases above
      exact absurd later_is (mem_subtypes_iff.mp (List.getElem_mem inside)).1
  | succ steps ih =>
      have turns := turn_mono (pairwise_subtypes schema name) le inside
      generalize (schema.subtypes name)[j] = later at above turns
      cases above with
      | step declared above =>
          have present := (frontier_subtypes schema name).mem_of_climbs above List.mem_cons_self
          obtain ⟨k, within, rfl⟩ := List.getElem_of_mem present
          have before := Nat.le_trans turns (turn_le declared)
          have first := declares_turn (Nat.lt_of_le_of_lt before within)
          generalize schema.turn _ (schema.subtypes name)[i] = turn at before first
          cases turn with
          | zero => exact ⟨1, Nat.succ_le_succ (Nat.zero_le _), .step first .stay⟩
          | succ turn =>
              cases k with
              | zero => exact absurd before (Nat.not_succ_le_zero _)
              | succ k =>
                  obtain ⟨fewer, few, below⟩ :=
                    ih (Nat.le_of_succ_le_succ before) (Nat.lt_of_succ_lt_succ within) above
                  exact ⟨fewer + 1, Nat.succ_le_succ few, .step first below⟩

/-- What is found has a distance, and what is found earlier has no greater one. -/
theorem nearest_first_subtypes (schema : Schema) (name : String)
    : (schema.subtypes name).Pairwise fun earlier later =>
        ∃ near far,
          schema.Distance earlier name near ∧ schema.Distance later name far ∧ near ≤ far := by
  apply List.pairwise_iff_getElem.mpr
  intro i j _ inside before
  obtain ⟨_, _, _, reached⟩ := mem_subtypes_iff.mp (List.getElem_mem inside)
  obtain ⟨far, farthest⟩ := exists_distance reached
  obtain ⟨fewer, few, below⟩ := exists_climbs_of_le (Nat.le_of_lt before) inside farthest.1
  obtain ⟨near, nearest⟩ := exists_distance below
  exact ⟨near, far, nearest, farthest, Nat.le_trans (nearest.2 below) few⟩

end distance

/-- The search for subtypes finds every type below the queried name, each once, and in breadth-first
order, whatever the supertypes of the schema are and whether it has the name or not.
-/
theorem subtypes_breadthFirst (schema : Schema) (name : String)
    : schema.BreadthFirst name (schema.subtypes name) where
  nodup := (List.nodup_cons.mp (nodup_subtypes schema name)).2
  mem_iff := by
    intro subtype
    exact mem_subtypes_iff
  nearest_first := nearest_first_subtypes schema name
  parents_in_turn := pairwise_subtypes schema name

/-- A diamond that is closed to a cycle: no type is found twice, and the first one not at all. -/
example
    : subtypes
        { entries :=
            [ ("A", ⟨["D"], [], [], none⟩), ("B", ⟨["A"], [], [], none⟩),
              ("C", ⟨["A", "B"], [], [], none⟩), ("D", ⟨["C", "B"], [], [], none⟩) ]
          ascending := by unfold Ascending; decide } "A"
      = ["B", "C", "D"] := by
  cbv

end QueryTree.Schema
