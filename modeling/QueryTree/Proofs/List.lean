import Mathlib.Data.List.Forall2
import Mathlib.Data.List.TakeWhile

/-! Lists: what is found in them by a key, where they are cut by a test, and what they have in
common with lists that they are related to element by element.
-/

namespace QueryTree

section search

variable {α : Type} {key : α → String} {items : List α}

/-- Where no two items have the same key, an item is what is found under its key. -/
theorem find?_of_nodup (distinct : (items.map key).Nodup) {item : α} (present : item ∈ items)
    : items.find? (fun other => key other == key item) = some item := by
  induction items with
  | nil => cases present
  | cons first rest ih =>
      obtain ⟨absent, below⟩ := List.nodup_cons.mp distinct
      rcases List.mem_cons.mp present with rfl | later
      · exact List.find?_cons_of_pos (beq_self_eq_true _)
      · have other : key first ≠ key item := by
          intro same
          exact absent (same ▸ List.mem_map_of_mem later)
        rw [List.find?_cons_of_neg (by simpa using other)]
        exact ih below later

theorem find?_of_not_mem {name : String} (absent : name ∉ items.map key)
    : items.find? (fun item => key item == name) = none := by
  apply List.find?_eq_none.mpr
  intro item present same
  exact absent (List.mem_map.mpr ⟨item, present, by simpa using same⟩)

end search

section cuts

variable {α : Type} {passes : α → Bool} {before after items : List α} {item mark : α}

/-- An item of a list stands before the first one that fails a test, is that one, or stands after
it.
-/
theorem mem_split (passes : α → Bool) (member : item ∈ items)
    : item ∈ items.takeWhile passes ∨ passes item = false
      ∨ item ∈ (items.dropWhile passes).tail := by
  rw [← List.takeWhile_append_dropWhile (p := passes) (l := items)] at member
  rcases List.mem_append.mp member with before | after
  · exact .inl before
  · have first := List.head?_dropWhile_not passes items
    cases rest : items.dropWhile passes with
    | nil => exact absurd (rest ▸ after) List.not_mem_nil
    | cons mark others =>
        rw [rest] at after first
        rcases List.mem_cons.mp after with rfl | later
        · exact .inr (.inl (by simpa using first))
        · exact .inr (.inr later)

/-- A list passes a test throughout, or it can be cut at the first item that fails it, by induction
on the list.
-/
theorem passes_or_cut (passes : α → Bool) (items : List α)
    : (∀ item ∈ items, passes item = true)
      ∨ ∃ before mark after,
          items = before ++ mark :: after
          ∧ (∀ item ∈ before, passes item = true)
          ∧ passes mark = false := by
  induction items with
  | nil => exact .inl fun _ absent => absurd absent List.not_mem_nil
  | cons first rest ih =>
      cases test : passes first with
      | false =>
          exact .inr ⟨[], first, rest, rfl, fun _ absent => absurd absent List.not_mem_nil, test⟩
      | true =>
          rcases ih with all | ⟨before, mark, after, rfl, each, fails⟩
          · exact .inl (List.forall_mem_cons.mpr ⟨test, all⟩)
          · exact .inr ⟨first :: before, mark, after, rfl, List.forall_mem_cons.mpr ⟨test, each⟩,
              fails⟩

theorem takeWhile_cut (each : ∀ item ∈ before, passes item = true) (fails : passes mark = false)
    : (before ++ mark :: after).takeWhile passes = before := by
  rw [List.takeWhile_append_of_pos each, List.takeWhile_cons_of_neg (by simp [fails]),
    List.append_nil]

theorem dropWhile_cut (each : ∀ item ∈ before, passes item = true) (fails : passes mark = false)
    : (before ++ mark :: after).dropWhile passes = mark :: after := by
  rw [List.dropWhile_append_of_pos each, List.dropWhile_cons_of_neg (by simp [fails])]

end cuts

variable {α β : Type}

theorem exists_of_mem_forall₂ {related : α → β → Prop} {left : List α} {right : List β}
    (each : List.Forall₂ related left right) {target : β} (member : target ∈ right)
    : ∃ source ∈ left, related source target := by
  induction each with
  | nil => cases member
  | cons first rest ih =>
      rcases List.mem_cons.mp member with rfl | later
      · exact ⟨_, List.mem_cons_self, first⟩
      · obtain ⟨source, present, found⟩ := ih later
        exact ⟨source, List.mem_cons_of_mem _ present, found⟩

/-- A list is read exactly if its items are, one by one, by induction on the list. -/
theorem eq_some_iff_forall₂ {read : α → Option β} {readAll : List α → Option (List β)}
    (none : readAll [] = some [])
    (first
      : ∀ item rest,
          readAll (item :: rest) = (read item).bind fun value => (readAll rest).map (value :: ·))
    {items : List α} {values : List β}
    : readAll items = some values
      ↔ List.Forall₂ (fun item value => read item = some value) items values := by
  induction items generalizing values with
  | nil => rw [none, Option.some.injEq, List.forall₂_nil_left_iff, eq_comm]
  | cons item rest ih =>
      rw [first, Option.bind_eq_some_iff, List.forall₂_cons_left_iff]
      constructor
      · rintro ⟨value, here, after⟩
        obtain ⟨others, later, rfl⟩ := Option.map_eq_some_iff.mp after
        exact ⟨value, others, here, ih.mp later, rfl⟩
      · rintro ⟨value, others, here, later, rfl⟩
        exact ⟨value, here, Option.map_eq_some_iff.mpr ⟨others, ih.mpr later, rfl⟩⟩

/-- What is made along a list of each of its elements is the list of all that. -/
theorem eq_map {each : α → β} {all : List α → List β} (none : all [] = [])
    (first : ∀ value rest, all (value :: rest) = each value :: all rest) (values : List α)
    : all values = values.map each := by
  induction values with
  | nil => exact none
  | cons value rest ih => rw [first, ih, List.map_cons]

/-- What is put together along a list from what its elements give is all that, in order. -/
theorem eq_flatMap {each : α → List β} {all : List α → List β} (none : all [] = [])
    (first : ∀ value rest, all (value :: rest) = each value ++ all rest) (values : List α)
    : all values = values.flatMap each := by
  induction values with
  | nil => exact none
  | cons value rest ih => rw [first, ih, List.flatMap_cons]

/-- The greatest size in a list is within a bound exactly if each size is, by induction on the list.
-/
theorem greatest_le_iff {size : α → Nat} {greatest : List α → Nat} (none : greatest [] = 0)
    (first : ∀ value rest, greatest (value :: rest) = max (size value) (greatest rest))
    {values : List α} {bound : Nat}
    : greatest values ≤ bound ↔ ∀ value ∈ values, size value ≤ bound := by
  induction values with
  | nil => simp [none]
  | cons value rest ih => rw [first, Nat.max_le, ih, List.forall_mem_cons]

end QueryTree
