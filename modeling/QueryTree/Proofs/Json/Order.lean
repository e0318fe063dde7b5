import Mathlib.Data.List.Forall2
import Mathlib.Data.List.Perm.Basic
import QueryTree.Proofs.Json.Reading

/-! Reading the fields of an object in another order. Either all of them can be read in both orders,
or neither order can be read, each for the fault of one of the fields. A record around such an
object is read alike, unless reading it comes to those faults.
-/

namespace QueryTree.Json

/-- Two results are the same, or both are faults, and such ones as are `possible`. -/
def Alike {σ : Type} (possible : Fault → Prop) (left right : Except Fault σ) : Prop :=
  left = right
  ∨ ∃ first second,
      left = .error first ∧ right = .error second ∧ possible first ∧ possible second

namespace Reader

variable {α : Type} {read : Reader α} {field : Option String × Draft} {value : String × α}
  {fields others : List (Option String × Draft)} {values : List (String × α)} {fault : Fault}

/-- Reads a field whatever its name. -/
def entry (read : Reader α) : Option String × Draft → Except Fault (String × α)
  | (none, _) => .error .malformed
  | (some name, draft) => (read draft).map (name, ·)

theorem name_of_entry (done : entry read field = .ok value) : field.1 = some value.1 := by
  obtain ⟨name, draft⟩ := field
  cases name with
  | none => cases done
  | some name =>
      cases found : read draft with
      | error fault =>
          simp only [entry, found, Except.map] at done
          cases done
      | ok inner =>
          simp only [entry, found, Except.map] at done
          exact congrArg some (congrArg Prod.fst (Except.ok.inj done))

/-- Fields are read one after the other. -/
theorem entries_cons (read : Reader α) (field : Option String × Draft)
    (fields : List (Option String × Draft))
    : entries read (field :: fields)
      = match entry read field with
        | .error fault => .error fault
        | .ok value => (entries read fields).map (value :: ·) := by
  obtain ⟨name, draft⟩ := field
  cases name with
  | none => rfl
  | some name =>
      rw [entries, entry]
      cases read draft with
      | error fault => rfl
      | ok value =>
          dsimp only [Except.map]
          cases entries read fields <;> rfl

theorem entries_cons_eq_ok
    : entries read (field :: fields) = .ok values
      ↔ ∃ value rest,
          entry read field = .ok value
          ∧ entries read fields = .ok rest
          ∧ values = value :: rest := by
  rw [entries_cons]
  cases entry read field with
  | error fault => simp
  | ok value => cases entries read fields <;> simp [Except.map, eq_comm]

theorem entries_eq_ok
    : entries read fields = .ok values
      ↔ List.Forall₂ (fun field value => entry read field = .ok value) fields values := by
  induction fields generalizing values with
  | nil => simp [entries, eq_comm]
  | cons field rest ih => simp only [entries_cons_eq_ok, ih, List.forall₂_cons_left_iff]

/-- Where fields cannot be read, it is for the fault of one of them. -/
theorem exists_of_entries_eq_error (failed : entries read fields = .error fault)
    : ∃ field ∈ fields, entry read field = .error fault := by
  induction fields with
  | nil => cases failed
  | cons field rest ih =>
      rw [entries_cons] at failed
      cases first : entry read field with
      | error other =>
          rw [first] at failed
          obtain rfl := Except.error.inj failed
          exact ⟨field, List.mem_cons_self, first⟩
      | ok value =>
          rw [first] at failed
          cases behind : entries read rest with
          | error other =>
              rw [behind] at failed
              obtain rfl := Except.error.inj failed
              obtain ⟨faulty, later, wrong⟩ := ih behind
              exact ⟨faulty, List.mem_cons_of_mem _ later, wrong⟩
          | ok others =>
              rw [behind] at failed
              cases failed

theorem names_of_entries (done : entries read fields = .ok values)
    : fields.filterMap Prod.fst = values.map Prod.fst := by
  have each := entries_eq_ok.mp done
  induction each with
  | nil => rfl
  | cons first _ ih =>
      rw [List.filterMap_cons, name_of_entry first, List.map_cons]
      exact congrArg _ (ih (entries_eq_ok.mpr ‹_›))

/-- In another order the same fields are read, in that order. -/
theorem entries_perm (order : fields.Perm others) (done : entries read fields = .ok values)
    : ∃ reordered, entries read others = .ok reordered ∧ values.Perm reordered := by
  obtain ⟨reordered, each, same⟩ := List.perm_comp_forall₂ order.symm (entries_eq_ok.mp done)
  exact ⟨reordered, entries_eq_ok.mpr each, same.symm⟩

/-- Objects whose fields have different names are read alike in any order, if what is made of them
does not depend on the order.
-/
theorem table_perm {σ : Type} {make : List (String × α) → σ}
    (unordered
      : ∀ values reordered : List (String × α),
          values.Perm reordered → (values.map Prod.fst).Nodup → make values = make reordered)
    (order : fields.Perm others) (distinct : (fields.filterMap Prod.fst).Nodup) (ending : Ending)
    : Alike (fun fault => ∃ field ∈ fields, entry read field = .error fault)
        ((table read (.object fields ending)).map make)
        ((table read (.object others ending)).map make) := by
  rw [table, table]
  cases done : entries read fields with
  | ok values =>
      obtain ⟨reordered, again, same⟩ := entries_perm order done
      left
      rw [again]
      dsimp only
      split
      · rw [names_of_entries done] at distinct
        exact congrArg Except.ok (unordered values reordered same distinct)
      · rfl
  | error first =>
      cases again : entries read others with
      | ok reordered =>
          obtain ⟨values, done', _⟩ := entries_perm order.symm again
          rw [done] at done'
          cases done'
      | error second =>
          obtain ⟨faulty, present, wrong⟩ := exists_of_entries_eq_error again
          exact .inr ⟨first, second, rfl, rfl, exists_of_entries_eq_error done, faulty,
            order.mem_iff.mpr present, wrong⟩

end Reader

namespace Alike

variable {σ τ : Type} {possible : Fault → Prop}

theorem refl (result : Except Fault σ) : Alike possible result result :=
  .inl rfl

/-- Whatever goes on from a result goes on alike from results that are alike. -/
theorem and_then {left right : Except Fault σ} (next : σ → Except Fault τ)
    : Alike possible left right
      → Alike possible
          (match left with
            | .error fault => .error fault
            | .ok value => next value)
          (match right with
            | .error fault => .error fault
            | .ok value => next value) := by
  intro alike
  rcases alike with rfl | ⟨first, second, rfl, rfl, one, other⟩
  · exact refl _
  · exact .inr ⟨first, second, rfl, rfl, one, other⟩

end Alike

namespace RecordShape

variable {σ : Type} {shape : RecordShape σ} {possible : Fault → Prop} {name : String}
  {field : RecordField σ} {draft other : Draft}

/-- A record is read alike with another draft of one field that is put into records alike, by
induction on what is read before that field.
-/
theorem readFields_alike
    (known : shape.fields.find? (fun field => field.name == name) = some field)
    (alike : ∀ record, Alike possible (field.put draft record) (field.put other record))
    (before after : List (Option String × Draft)) (ending : Ending) (record : σ)
    (seen : List String)
    : Alike possible
        (shape.readFields ending record seen (before ++ (some name, draft) :: after))
        (shape.readFields ending record seen (before ++ (some name, other) :: after)) := by
  induction before generalizing record seen with
  | nil =>
      rw [List.nil_append, List.nil_append, readFields, readFields, known]
      dsimp only
      split
      · exact .refl _
      · exact Alike.and_then (fun next => shape.readFields ending next (name :: seen) after)
          (alike record)
  | cons first before ih =>
      obtain ⟨label, value⟩ := first
      cases label with
      | none => exact .refl _
      | some label =>
          rw [List.cons_append, List.cons_append, readFields, readFields]
          split
          · split
            · exact .refl _
            · split
              · exact .refl _
              · exact ih _ _
          · split
            · exact .refl _
            · split
              · exact ih _ _
              · exact .refl _

theorem readItems_alike (alike : ∀ record, Alike possible (field.put draft record)
      (field.put other record))
    (fields : List (RecordField σ)) (after : List Draft) (ending : Ending) (record : σ)
    : Alike possible (readItems ending record (field :: fields) (draft :: after))
        (readItems ending record (field :: fields) (other :: after)) := by
  rw [readItems, readItems]
  exact Alike.and_then (fun next => readItems ending next fields after) (alike record)

end RecordShape

end QueryTree.Json
