import QueryTree.Proofs.List
import QueryTree.Schema.NameMap

/-! What a map holds under a name. The order of a map leaves no name in it twice, so whatever is in
its entries is found under its name. Changing it at one name leaves the others as they are.
-/

namespace QueryTree

namespace NameMap

variable {α β : Type} {map : NameMap α}

theorem mem_of_get? {name : String} {value : α} (found : map.get? name = some value)
    : (name, value) ∈ map.entries := by
  obtain ⟨entry, hit, rfl⟩ := Option.map_eq_some_iff.mp found
  have same : entry.1 = name := by simpa using List.find?_some hit
  exact same ▸ List.mem_of_find?_eq_some hit

theorem contains_of_get? {name : String} {value : α} (found : map.get? name = some value)
    : map.contains name = true :=
  List.any_eq_true.mpr ⟨_, mem_of_get? found, by simp⟩

theorem get?_mapValues (change : α → β) (map : NameMap α) (name : String)
    : (map.mapValues change).get? name = (map.get? name).map change := by
  simp [get?, mapValues, List.find?_map, Function.comp_def]

theorem nodup_names (map : NameMap α) : map.names.Nodup :=
  List.pairwise_map.mpr (map.ascending.imp String.ne_of_lt)

theorem get?_eq_some {name : String} {value : α}
    : map.get? name = some value ↔ (name, value) ∈ map.entries := by
  constructor
  · exact mem_of_get?
  · intro present
    unfold get?
    rw [find?_of_nodup map.nodup_names present]
    rfl

theorem contains_iff {name : String} : map.contains name = true ↔ name ∈ map.names := by
  simp [contains, names]

theorem exists_get?_of_mem_names {name : String} (present : name ∈ map.names)
    : ∃ value, map.get? name = some value := by
  obtain ⟨⟨_, value⟩, listed, rfl⟩ := List.mem_map.mp present
  exact ⟨value, get?_eq_some.mpr listed⟩

/-- The map without a name. -/
def erase (map : NameMap α) (name : String) : NameMap α where
  entries := map.entries.filter fun entry => entry.1 ≠ name
  ascending := List.Pairwise.filter _ map.ascending

/-- An insertion puts its entry among the others, or over one of the same name, and leaves the rest
as it is; by induction on the list.
-/
theorem find?_insertEntry_of_ne {name other : String} (different : name ≠ other) (value : α)
    (entries : List (String × α))
    : (insertEntry name value entries).find? (fun entry => entry.1 == other)
      = entries.find? fun entry => entry.1 == other := by
  induction entries with
  | nil => simp [insertEntry, different]
  | cons head rest ih =>
      unfold insertEntry
      split
      · simp [different]
      · split
        · simp only [List.find?_cons, ih]
        · rename_i notBefore notAfter
          have same : head.1 = name :=
            String.le_antisymm (String.not_lt.mp notBefore) (String.not_lt.mp notAfter)
          simp [same, different]

theorem get?_insert_of_ne {name other : String} (different : name ≠ other) (map : NameMap α)
    (value : α)
    : (map.insert name value).get? other = map.get? other :=
  congrArg (Option.map Prod.snd) (find?_insertEntry_of_ne different value map.entries)

theorem get?_erase_of_ne {name other : String} (different : name ≠ other) (map : NameMap α)
    : (map.erase name).get? other = map.get? other := by
  unfold get? erase
  rw [List.find?_filter]
  congr 2
  funext entry
  by_cases same : entry.1 = other
  · simp [same, Ne.symm different]
  · simp [same]

end NameMap

end QueryTree
