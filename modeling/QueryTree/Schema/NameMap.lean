/-! Maps from names to values, ordered by name. The order is part of the type: the names of a map
increase strictly by code point, so a map never holds a name twice, and two maps that were filled in
different orders with the same values are the same map.
-/

namespace QueryTree

/-- A list of names and values in increasing order of the names. -/
def Ascending {α : Type} (entries : List (String × α)) : Prop :=
  entries.Pairwise fun left right => left.1 < right.1

/-- A map from names to values. -/
structure NameMap (α : Type) where
  entries : List (String × α)
  ascending : Ascending entries

namespace NameMap

variable {α β : Type}

/-- The map without any name. -/
def empty : NameMap α :=
  ⟨[], List.Pairwise.nil⟩

/-- Puts a name and its value at its place in a list of entries, over the value it has already. -/
def insertEntry (name : String) (value : α)
    : List (String × α) → List (String × α)
  | [] => [(name, value)]
  | entry :: rest =>
      if name < entry.1 then (name, value) :: entry :: rest
      else if entry.1 < name then entry :: insertEntry name value rest
      else (name, value) :: rest

/-- Whatever is in a list after an insertion was in it before or is the inserted entry, by
induction on the list.
-/
theorem mem_insertEntry {name : String} {value : α} {entry : String × α}
    {entries : List (String × α)} (member : entry ∈ insertEntry name value entries)
    : entry = (name, value) ∨ entry ∈ entries := by
  induction entries with
  | nil => exact .inl (List.mem_singleton.mp member)
  | cons head rest ih =>
      unfold insertEntry at member
      split at member
      · rcases List.mem_cons.mp member with h | h
        · exact .inl h
        · exact .inr h
      · split at member
        · rcases List.mem_cons.mp member with h | h
          · exact .inr (h ▸ List.mem_cons_self)
          · rcases ih h with h | h
            · exact .inl h
            · exact .inr (List.mem_cons_of_mem _ h)
        · rcases List.mem_cons.mp member with h | h
          · exact .inl h
          · exact .inr (List.mem_cons_of_mem _ h)

/-- Insertion keeps the order, by induction on the list and comparison with its head. -/
theorem ascending_insertEntry (name : String) (value : α) {entries : List (String × α)}
    (h : Ascending entries)
    : Ascending (insertEntry name value entries) := by
  induction entries with
  | nil => exact List.pairwise_singleton ..
  | cons head rest ih =>
      obtain ⟨hhead, hrest⟩ := List.pairwise_cons.mp h
      unfold insertEntry
      split
      · rename_i hlt
        refine List.pairwise_cons.mpr ⟨fun entry member => ?_, h⟩
        rcases List.mem_cons.mp member with rfl | member
        · exact hlt
        · exact String.lt_trans hlt (hhead entry member)
      · split
        · rename_i hlt
          refine List.pairwise_cons.mpr ⟨fun entry member => ?_, ih hrest⟩
          rcases mem_insertEntry member with rfl | member
          · exact hlt
          · exact hhead entry member
        · rename_i hge hle
          have heq : head.1 = name :=
            String.le_antisymm (String.not_lt.mp hge) (String.not_lt.mp hle)
          exact List.pairwise_cons.mpr ⟨fun entry member => heq ▸ hhead entry member, hrest⟩

/-- Gives a name a value, over the one it has already. -/
def insert (map : NameMap α) (name : String) (value : α) : NameMap α :=
  ⟨insertEntry name value map.entries, ascending_insertEntry name value map.ascending⟩

/-- The map of a list of names and values; the last of several equal names wins. -/
def ofList (entries : List (String × α)) : NameMap α :=
  entries.foldl (fun map entry => map.insert entry.1 entry.2) empty

/-- The value of a name. -/
def get? (map : NameMap α) (name : String) : Option α :=
  (map.entries.find? fun entry => entry.1 == name).map Prod.snd

/-- Whether a name has a value. -/
def contains (map : NameMap α) (name : String) : Bool :=
  map.entries.any fun entry => entry.1 == name

/-- All names, in order. -/
def names (map : NameMap α) : List String :=
  map.entries.map Prod.fst

/-- How many names there are. -/
def size (map : NameMap α) : Nat :=
  map.entries.length

/-- The map with every value replaced. -/
def mapValues (f : α → β) (map : NameMap α) : NameMap β :=
  { entries := map.entries.map fun entry : String × α => (entry.1, f entry.2)
    ascending := List.pairwise_map.mpr map.ascending }

end NameMap

end QueryTree
