import QueryTree.Proofs.Schema.NameMap
import QueryTree.Schema.Building

/-! What a map holds after it was filled. Under each name it holds the value of the last entry of
that name, whether the entries were inserted one after the other or sorted as a whole. Entries of
different names may come in any order.
-/

namespace QueryTree.NameMap

variable {α : Type}

-----------------------------------------------------------------------------------------
-- What a map is determined by
-----------------------------------------------------------------------------------------

/-- The value of the last entry of a name. -/
def lastValue? (entries : List (String × α)) (name : String) : Option α :=
  (entries.reverse.find? fun entry => entry.1 == name).map Prod.snd

/-- Two maps are the same if they hold the same under every name, since both are in order. -/
theorem ext_get? {left right : NameMap α} (same : ∀ name, left.get? name = right.get? name)
    : left = right := by
  have nodup (map : NameMap α) : map.entries.Nodup := by
    refine map.ascending.imp ?_
    intro first second below same
    exact String.lt_irrefl _ (same ▸ below)
  have order : left.entries.Perm right.entries := by
    apply (List.perm_ext_iff_of_nodup (nodup left) (nodup right)).mpr
    intro entry
    rw [← get?_eq_some, ← get?_eq_some, same]
  have equal : left.entries = right.entries := by
    refine List.Perm.eq_of_pairwise ?_ left.ascending right.ascending order
    intro first second _ _ below above
    exact absurd (String.lt_trans below above) (String.lt_irrefl _)
  cases left
  cases right
  cases equal
  rfl

-----------------------------------------------------------------------------------------
-- What is found after one insertion
-----------------------------------------------------------------------------------------

section insert

theorem mem_insertEntry_self (name : String) (value : α) (entries : List (String × α))
    : (name, value) ∈ insertEntry name value entries := by
  induction entries with
  | nil => exact List.mem_singleton.mpr rfl
  | cons head rest ih =>
      unfold insertEntry
      split
      · exact List.mem_cons_self
      · split
        · exact List.mem_cons_of_mem _ ih
        · exact List.mem_cons_self

theorem get?_insert (map : NameMap α) (name : String) (value : α) (other : String)
    : (map.insert name value).get? other
      = if name = other then some value else map.get? other := by
  split
  · rename_i same
    exact get?_eq_some.mpr (same ▸ mem_insertEntry_self name value map.entries)
  · rename_i different
    exact get?_insert_of_ne different map value

end insert

-----------------------------------------------------------------------------------------
-- What is found among entries
-----------------------------------------------------------------------------------------

section lastValue

variable {entries others rest : List (String × α)} {entry : String × α} {name : String} {value : α}

theorem lastValue?_cons
    : lastValue? (entry :: rest) name
      = (lastValue? rest name).or (if entry.1 = name then some entry.2 else none) := by
  unfold lastValue?
  rw [List.reverse_cons, List.find?_append, Option.map_or]
  by_cases same : entry.1 = name <;> simp [same]

theorem lastValue?_eq_none (absent : ∀ entry ∈ entries, entry.1 ≠ name)
    : lastValue? entries name = none := by
  unfold lastValue?
  rw [Option.map_eq_none_iff, List.find?_eq_none]
  intro entry present
  simpa using absent entry (List.mem_reverse.mp present)

/-- The last entry of a name is found by looking at the entries of that name alone. -/
theorem lastValue?_filter (entries : List (String × α)) (name : String)
    : lastValue? entries name
      = (entries.filter fun entry => entry.1 == name).getLast?.map Prod.snd := by
  rw [lastValue?, List.getLast?_eq_head?_reverse, ← List.filter_reverse, List.head?_filter]

/-- Where no two entries have the same name, the last of a name is any of that name. -/
theorem lastValue?_eq_some (distinct : (entries.map Prod.fst).Nodup)
    : lastValue? entries name = some value ↔ (name, value) ∈ entries := by
  unfold lastValue?
  constructor
  · intro found
    obtain ⟨entry, hit, rfl⟩ := Option.map_eq_some_iff.mp found
    have same : entry.1 = name := by simpa using List.find?_some hit
    exact same ▸ List.mem_reverse.mp (List.mem_of_find?_eq_some hit)
  · intro present
    have reversed : (entries.reverse.map Prod.fst).Nodup :=
      ((List.reverse_perm entries).map Prod.fst).nodup_iff.mpr distinct
    rw [find?_of_nodup reversed (List.mem_reverse.mpr present)]
    rfl

theorem lastValue?_perm (order : entries.Perm others) (distinct : (entries.map Prod.fst).Nodup)
    (name : String)
    : lastValue? entries name = lastValue? others name := by
  have stillDistinct := (order.map Prod.fst).nodup_iff.mp distinct
  ext value
  rw [lastValue?_eq_some distinct, lastValue?_eq_some stillDistinct, order.mem_iff]

end lastValue

-----------------------------------------------------------------------------------------
-- What is found after many insertions
-----------------------------------------------------------------------------------------

section ofList

variable {entries others : List (String × α)}

theorem get?_foldl_insert (entries : List (String × α)) (map : NameMap α) (name : String)
    : (entries.foldl (fun map entry => map.insert entry.1 entry.2) map).get? name
      = (lastValue? entries name).or (map.get? name) := by
  induction entries generalizing map with
  | nil => rfl
  | cons entry rest ih =>
      rw [List.foldl_cons, ih, get?_insert, lastValue?_cons, Option.or_assoc]
      split <;> rfl

/-- The last of several entries of a name wins. -/
theorem get?_ofList (entries : List (String × α)) (name : String)
    : (ofList entries).get? name = lastValue? entries name := by
  rw [ofList, get?_foldl_insert]
  exact Option.or_none

/-- Entries of different names may be inserted in any order. -/
theorem ofList_perm (order : entries.Perm others) (distinct : (entries.map Prod.fst).Nodup)
    : ofList entries = ofList others := by
  apply ext_get?
  intro name
  rw [get?_ofList, get?_ofList, lastValue?_perm order distinct]

end ofList

-----------------------------------------------------------------------------------------
-- What is found after sorting
-----------------------------------------------------------------------------------------

section collect

variable {entries : List (String × α)} {name : String}

theorem lastValue?_cons_of_again {entry : String × α} {rest : List (String × α)}
    (again : rest.head?.any fun next => next.1 == entry.1)
    : lastValue? (entry :: rest) name = lastValue? rest name := by
  cases rest with
  | nil => cases again
  | cons next rest =>
      have same : next.1 = entry.1 := by simpa using again
      rw [lastValue?_cons, lastValue?_cons, same, Option.or_assoc]
      split <;> simp

/-- Dropping all but the last of each run drops no last value, by induction on the list: an entry
that is kept stands before none of its name.
-/
theorem find?_lastOfRuns (sorted : entries.Pairwise fun left right => inOrder left right)
    : ((lastOfRuns entries).find? fun entry => entry.1 == name).map Prod.snd
      = lastValue? entries name := by
  induction entries with
  | nil => rfl
  | cons entry rest ih =>
      have below := ih (List.pairwise_cons.mp sorted).2
      unfold lastOfRuns
      split
      · rename_i again
        rw [below, lastValue?_cons_of_again again]
      · rename_i last
        rw [lastValue?_cons]
        by_cases same : entry.1 = name
        · have behind : lastValue? rest name = none := by
            apply lastValue?_eq_none
            intro other present
            exact same ▸ (String.ne_of_lt (lt_of_last sorted last other present)).symm
          simp [same, behind]
        · simp [same, below]

/-- Sorting leaves the entries of one name in their order. -/
theorem filter_mergeSort (entries : List (String × α)) (name : String)
    : (entries.mergeSort inOrder).filter (fun entry => entry.1 == name)
      = entries.filter fun entry => entry.1 == name := by
  have alike
      : (entries.filter fun entry => entry.1 == name).Pairwise
          fun left right => inOrder left right := by
    apply List.pairwise_of_forall_mem_list
    intro left first right second
    have leftName : left.1 = name := by simpa using (List.mem_filter.mp first).2
    have rightName : right.1 = name := by simpa using (List.mem_filter.mp second).2
    exact decide_eq_true (leftName.trans rightName.symm ▸ String.le_refl _)
  have kept := List.sublist_mergeSort inOrder_trans inOrder_total alike List.filter_sublist
  have within := kept.filter fun entry => entry.1 == name
  rw [List.filter_filter] at within
  simp only [Bool.and_self] at within
  have same := (List.mergeSort_perm entries inOrder).filter fun entry => entry.1 == name
  exact (within.eq_of_length same.length_eq.symm).symm

theorem get?_collect (entries : List (String × α)) (name : String)
    : (collect entries).get? name = lastValue? entries name := by
  have sorted := List.pairwise_mergeSort inOrder_trans inOrder_total entries
  rw [get?, collect, find?_lastOfRuns sorted, lastValue?_filter, filter_mergeSort,
    ← lastValue?_filter]

/-- A list that is sorted as a whole makes the map that insertion makes. -/
theorem collect_eq_ofList (entries : List (String × α)) : collect entries = ofList entries := by
  apply ext_get?
  intro name
  rw [get?_collect, get?_ofList]

end collect

end QueryTree.NameMap
