import QueryTree.Proofs.Json.Reading
import QueryTree.Proofs.Schema.NameMap

/-! Storing what is read back. A record may be written as an object of its fields, in the order of
its shape and without some of those that may be absent. It is read back if each field that was
written puts its value where it came from.
-/

namespace QueryTree.Json

namespace Reader

variable {α : Type} {read : Reader α} {store : α → Json} {entries : List (String × α)}

/-- An object of any names comes back if each of its values does. -/
theorem entries_toDraftFields (each : ∀ entry ∈ entries, read (store entry.2).toDraft = .ok entry.2)
    : Reader.entries read
        (toDraftFields (entries.map fun entry : String × α => (entry.1, store entry.2)))
      = .ok entries := by
  induction entries with
  | nil => rfl
  | cons entry rest ih =>
      have here := each entry List.mem_cons_self
      have after := ih fun other present => each other (List.mem_cons_of_mem _ present)
      rw [List.map_cons, toDraftFields, toDraftField, Reader.entries]
      simp only [here, after]

theorem table_toDraft (each : ∀ entry ∈ entries, read (store entry.2).toDraft = .ok entry.2)
    : table read
        (Json.object (entries.map fun entry : String × α => (entry.1, store entry.2))).toDraft
      = .ok entries := by
  rw [toDraft, table, entries_toDraftFields each]
  rfl

end Reader

namespace RecordShape

variable {σ : Type}

/-- Reading the fields of a record in order takes it from one state to another: each field is
written under its name and puts its value into the record, or it may be absent and is left out.
-/
inductive Fills : List (RecordField σ) → List (String × Json) → σ → σ → Prop
  | done {record} : Fills [] [] record record
  | put {field fields value written record next last} (canonical : value.Canonical)
    (puts : field.put value.toDraft record = .ok next) (rest : Fills fields written next last)
    : Fills (field :: fields) ((field.name, value) :: written) record last
  | skip {field fields written record last} (omittable : field.required = false)
    (rest : Fills fields written record last)
    : Fills (field :: fields) written record last

/-- A value holds a record field by field. -/
inductive Stores (shape : RecordShape σ) : Json → σ → Prop
  | object {written record} (distinct : (shape.fields.map RecordField.name).Nodup)
    (fills : Fills shape.fields written shape.blank record)
    : Stores shape (.object written) record

section stores

variable {shape : RecordShape σ} {fields : List (RecordField σ)} {written : List (String × Json)}
  {record last : σ} {value : Json}

/-- A field is written if what is written is read as the value that it puts. -/
theorem Fills.mandatory {α : Type} {name : String} {read : Reader α} {put : α → σ → σ} {held : α}
    (canonical : value.Canonical) (comes : read value.toDraft = .ok held)
    (rest : Fills fields written (put held record) last)
    : Fills (.mandatory name read put :: fields) ((name, value) :: written) record last :=
  .put canonical (congrArg (Except.map _) comes) rest

theorem Fills.omittable {α : Type} {name : String} {read : Reader α} {put : α → σ → σ} {held : α}
    (canonical : value.Canonical) (comes : read value.toDraft = .ok held)
    (rest : Fills fields written (put held record) last)
    : Fills (.omittable name read put :: fields) ((name, value) :: written) record last :=
  .put canonical (congrArg (Except.map _) comes) rest

/-- The names of what is written are among those of the shape, in their order. -/
theorem Fills.names (fills : Fills fields written record last)
    : (written.map Prod.fst).Sublist (fields.map RecordField.name) := by
  induction fills with
  | done => exact .slnil
  | put _ _ _ ih => exact ih.cons_cons _
  | skip _ _ ih => exact ih.cons _

theorem Fills.canonical (fills : Fills fields written record last)
    : ∀ entry ∈ written, entry.2.Canonical := by
  induction fills with
  | done => exact nofun
  | put canonical _ _ ih => exact List.forall_mem_cons.mpr ⟨canonical, ih⟩
  | skip _ _ ih => exact ih

theorem Stores.canonical (stores : shape.Stores value record)
    : value.Canonical := by
  cases stores with
  | object distinct fills => exact .object fills.canonical (fills.names.nodup distinct)

/-- Written fields are read back in order, by induction on them. No field behind those that were
read has been met, and of those that were read all that must be there have been.
-/
theorem readFields_of_fills (distinct : (shape.fields.map RecordField.name).Nodup)
    {before : List (RecordField σ)} (split : shape.fields = before ++ fields)
    (fills : Fills fields written record last) {seen : List String}
    (met : ∀ field ∈ before, field.required = true → field.name ∈ seen)
    (new : ∀ field ∈ fields, field.name ∉ seen)
    : shape.readFields .closed record seen (toDraftFields written) = .ok last := by
  induction fills generalizing before seen with
  | done =>
      refine readFields_nil_eq_ok.mpr ⟨rfl, ?_, rfl⟩
      intro field present required
      rw [split, List.append_nil] at present
      exact List.contains_iff_mem.mpr (met field present required)
  | @put field fields value written record next last _ puts _ ih =>
      have declared : field ∈ shape.fields := by
        rw [split]
        exact List.mem_append_right _ List.mem_cons_self
      have fresh : seen.contains field.name = false := by
        simpa using new field List.mem_cons_self
      have apart : field.name ∉ fields.map RecordField.name := by
        rw [split, List.map_append] at distinct
        exact (List.nodup_cons.mp (List.nodup_append.mp distinct).2.1).1
      rw [toDraftFields, toDraftField,
        readFields_of_put (find?_of_nodup distinct declared) fresh puts]
      apply ih (split.trans (List.append_cons ..))
      · intro other present required
        rcases List.mem_append.mp present with earlier | here
        · exact List.mem_cons_of_mem _ (met other earlier required)
        · exact List.mem_singleton.mp here ▸ List.mem_cons_self
      · intro other present
        rw [List.mem_cons, not_or]
        refine ⟨?_, new other (List.mem_cons_of_mem _ present)⟩
        intro same
        exact apart (same ▸ List.mem_map_of_mem present)
  | @skip field fields written record last omittable _ ih =>
      apply ih (split.trans (List.append_cons ..))
      · intro other present required
        rcases List.mem_append.mp present with earlier | here
        · exact met other earlier required
        · rw [List.mem_singleton.mp here, omittable] at required
          cases required
      · exact fun other present => new other (List.mem_cons_of_mem _ present)

theorem Stores.read (stores : shape.Stores value record)
    : shape.read value.toDraft = .ok record := by
  cases stores with
  | object distinct fills =>
      have all : shape.fields = [] ++ shape.fields := rfl
      exact readFields_of_fills distinct all fills nofun fun _ _ => List.not_mem_nil

end stores

section list

variable {shape : RecordShape σ} {store : σ → Json}
  (each : ∀ record, shape.Stores (store record) record) (records : List σ)
include each

/-- A list of records is stored record by record. -/
theorem canonical_list : (Json.array (records.map store)).Canonical :=
  .array (List.forall_mem_map.mpr fun record _ => (each record).canonical)

theorem read_list
    : Reader.list shape.read (Json.array (records.map store)).toDraft = .ok records :=
  Reader.list_toDraft fun record _ => (each record).read

end list

end RecordShape

end QueryTree.Json
