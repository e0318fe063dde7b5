import QueryTree.Json.Reader
import QueryTree.Proofs.Json.Scanning

/-! Reading back what was stored: lists item by item, records field by field. A property that every
field keeps is one of all records that are read, and a field that stands apart from the others can
be left out without a difference to them.
-/

namespace QueryTree.Json

theorem canonical_ofTexts (texts : List String) : (ofTexts texts).Canonical := by
  refine .array fun item present => ?_
  obtain ⟨text, _, rfl⟩ := List.mem_map.mp present
  exact .string

namespace Reader

variable {α : Type} {read : Reader α} {store : α → Json} {values : List α}

/-- A list comes back if each of its values does. -/
theorem items_toDrafts (each : ∀ value ∈ values, read (store value).toDraft = .ok value)
    : items read (toDrafts (values.map store)) = .ok values := by
  induction values with
  | nil => rfl
  | cons value rest ih =>
      have after := ih fun other present => each other (List.mem_cons_of_mem _ present)
      rw [List.map_cons, toDrafts, items, each value List.mem_cons_self, after]

theorem list_toDraft (each : ∀ value ∈ values, read (store value).toDraft = .ok value)
    : list read (Json.array (values.map store)).toDraft = .ok values := by
  rw [toDraft, list, items_toDrafts each]
  rfl

theorem texts_toDraft (texts : List String) : list text (ofTexts texts).toDraft = .ok texts :=
  list_toDraft fun _ _ => rfl

/-- The text of a canonical value is read as its draft is. -/
theorem ofText_write (read : Reader α) {value : Json} (canonical : value.Canonical)
    (layout : Layout)
    : ofText read (value.write layout) = read value.toDraft := by
  unfold ofText
  rw [Json.ofText_write canonical]
  dsimp only
  cases read value.toDraft <;> rfl

theorem read_of_ofText {text : String} {value : α} (done : ofText read text = .ok value)
    : read (Draft.ofText text).root = .ok value := by
  unfold ofText at done
  dsimp only at done
  split at done
  · cases done
  · rename_i found
    split at done
    · cases done
    · exact found.trans done

end Reader

namespace RecordShape

variable {σ : Type}

/-- A field that the shape has and that was not met before is put into the record, and reading goes
on after it.
-/
theorem readFields_of_put {shape : RecordShape σ} {field : RecordField σ} {name : String}
    (known : shape.fields.find? (fun field => field.name == name) = some field)
    {seen : List String} (new : seen.contains name = false) {draft : Draft} {record next : σ}
    (put : field.put draft record = .ok next) (ending : Ending)
    (rest : List (Option String × Draft))
    : shape.readFields ending record seen ((some name, draft) :: rest)
      = shape.readFields ending next (name :: seen) rest := by
  rw [readFields]
  simp only [known, new, put, Bool.false_eq_true, ↓reduceIte]

/-- A field that cannot be put into the record ends reading with its fault. -/
theorem readFields_of_fault {shape : RecordShape σ} {field : RecordField σ} {name : String}
    (known : shape.fields.find? (fun field => field.name == name) = some field)
    {seen : List String} (new : seen.contains name = false) {draft : Draft} {record : σ}
    {fault : Fault} (put : field.put draft record = .error fault) (ending : Ending)
    (rest : List (Option String × Draft))
    : shape.readFields ending record seen ((some name, draft) :: rest) = .error fault := by
  rw [readFields]
  simp only [known, new, put, Bool.false_eq_true, ↓reduceIte]

/-- A field that the shape does not have is skipped, if the shape is not strict. -/
theorem readFields_of_skip {shape : RecordShape σ} {name : String}
    (unknown : shape.fields.find? (fun field => field.name == name) = none)
    (lenient : shape.strict = false) {draft : Draft} (readable : draft.readable = true)
    (ending : Ending) (record : σ) (seen : List String) (rest : List (Option String × Draft))
    : shape.readFields ending record seen ((some name, draft) :: rest)
      = shape.readFields ending record seen rest := by
  rw [readFields]
  simp only [unknown, lenient, readable, Bool.false_eq_true, ↓reduceIte]

/-- Where reading goes through a field, it was put into the record or skipped. -/
theorem exists_put_or_skip {shape : RecordShape σ} {ending : Ending} {record last : σ}
    {seen : List String} {name : String} {draft : Draft} {rest : List (Option String × Draft)}
    (read : shape.readFields ending record seen ((some name, draft) :: rest) = .ok last)
    : (∃ field next,
        shape.fields.find? (fun field => field.name == name) = some field
        ∧ seen.contains name = false
        ∧ field.put draft record = .ok next
        ∧ shape.readFields ending next (name :: seen) rest = .ok last)
      ∨ (shape.fields.find? (fun field => field.name == name) = none
        ∧ shape.strict = false
        ∧ draft.readable = true
        ∧ shape.readFields ending record seen rest = .ok last) := by
  rw [readFields] at read
  split at read
  · rename_i field found
    split at read
    · cases read
    rename_i new
    split at read
    · cases read
    rename_i next put
    exact .inl ⟨field, next, found, by simpa using new, put, read⟩
  · rename_i missing
    split at read
    · cases read
    rename_i lenient
    split at read
    · rename_i readable
      exact .inr ⟨missing, by simpa using lenient, readable, read⟩
    · cases read

/-- Reading ends well after the last field of an object that is closed and has all that is required.
-/
theorem readFields_nil_eq_ok {shape : RecordShape σ} {ending : Ending} {record last : σ}
    {seen : List String}
    : shape.readFields ending record seen [] = .ok last
      ↔ ending = .closed
        ∧ (∀ field ∈ shape.fields, field.required = true → seen.contains field.name = true)
        ∧ record = last := by
  have complete
      : (shape.fields.all fun field => !field.required || seen.contains field.name) = true
        ↔ ∀ field ∈ shape.fields, field.required = true → seen.contains field.name = true := by
    rw [List.all_eq_true]
    refine forall_congr' fun field => forall_congr' fun _ => ?_
    cases field.required <;> simp
  rw [readFields, ← complete]
  cases ending with
  | broken => simp
  | closed =>
      rw [if_neg (by simp)]
      split
      · rename_i whole
        simp only [whole, Except.ok.injEq, true_and]
      · rename_i lacking
        simp only [lacking, reduceCtorEq, false_and, and_false]

end RecordShape

section preserved

variable {σ : Type} {holds : σ → Prop}

/-- A field that can be put into a record without making `holds` false. -/
def RecordField.Keeps (holds : σ → Prop) (field : RecordField σ) : Prop :=
  ∀ draft record next, field.put draft record = .ok next → holds record → holds next

theorem RecordField.keeps_omittable {α : Type} {name : String} {read : Reader α}
    {put : α → σ → σ}
    (kept
      : ∀ draft value, read draft = .ok value →
          ∀ record, holds record → holds (put value record))
    : (omittable name read put).Keeps holds := by
  intro draft record next done before
  cases found : read draft with
  | error fault =>
      simp only [omittable, found, Except.map] at done
      cases done
  | ok value =>
      simp only [omittable, found, Except.map] at done
      obtain rfl := Except.ok.inj done
      exact kept draft value found record before

/-- What each field keeps is kept by reading them all, by name or by position. -/
theorem RecordShape.readFields_preserves {shape : RecordShape σ}
    (each : ∀ field ∈ shape.fields, field.Keeps holds) {ending : Ending}
    {fields : List (Option String × Draft)} {record : σ} {seen : List String} {last : σ}
    (read : shape.readFields ending record seen fields = .ok last) (before : holds record)
    : holds last := by
  induction fields generalizing record seen with
  | nil =>
      obtain ⟨_, _, same⟩ := readFields_nil_eq_ok.mp read
      exact same ▸ before
  | cons first rest ih =>
      obtain ⟨name, draft⟩ := first
      cases name with
      | none => cases read
      | some name =>
          rcases exists_put_or_skip read with ⟨field, next, found, _, put, read⟩ | ⟨_, _, _, read⟩
          · exact ih read (each field (List.mem_of_find?_eq_some found) _ _ _ put before)
          · exact ih read before

theorem RecordShape.readItems_preserves {ending : Ending} {drafts : List Draft}
    {fields : List (RecordField σ)} (each : ∀ field ∈ fields, field.Keeps holds) {record last : σ}
    (read : readItems ending record fields drafts = .ok last) (before : holds record)
    : holds last := by
  induction drafts generalizing fields record with
  | nil =>
      simp only [readItems] at read
      split at read
      · cases read
      · split at read
        · cases read
        · exact Except.ok.inj read ▸ before
  | cons draft rest ih =>
      cases fields with
      | nil => cases read
      | cons field others =>
          rw [readItems] at read
          split at read
          · cases read
          · rename_i next put
            exact ih (fun other present => each other (List.mem_cons_of_mem _ present)) read
              (each field List.mem_cons_self _ _ _ put before)

/-- What holds of the blank record and is kept by every field holds of every record that is read. -/
theorem RecordShape.read_preserves {shape : RecordShape σ} (blank : holds shape.blank)
    (each : ∀ field ∈ shape.fields, field.Keeps holds) {draft : Draft} {record : σ}
    (read : shape.read draft = .ok record)
    : holds record := by
  cases draft with
  | object fields ending => exact readFields_preserves each read blank
  | array drafts ending => exact readItems_preserves each read blank
  | null | bool | number | string | fault => cases read

end preserved

section detached

variable {σ : Type} {name : String} {reset : σ → σ}

/-- The items of a record with `null` in the place of the field called `name`. -/
def RecordShape.clearItems (name : String) : List (RecordField σ) → List Draft → List Draft
  | field :: fields, item :: items =>
      (if field.name = name then .null else item) :: clearItems name fields items
  | _, items => items

/-- The draft of a record without the value of the field called `name`: among named fields it is
left out, and among items it is `null`.
-/
def RecordShape.without (shape : RecordShape σ) (name : String) : Draft → Draft
  | .object fields ending => .object (fields.filter fun field => field.1 ≠ some name) ending
  | .array items ending => .array (clearItems name shape.fields items) ending
  | draft => draft

/-- A field stands apart from the one called `name`, whose part of a record `reset` clears. What
that field itself puts into a record, `null` included, is cleared again; every other field puts the
same into a record that is clear.
-/
structure RecordField.Detaches (name : String) (reset : σ → σ) (field : RecordField σ)
    : Prop where
  omitted : field.name = name → field.required = false
  clear : field.name = name → ∀ record, field.put .null record = .ok (reset record)
  absorbed
    : field.name = name →
        ∀ draft record next, field.put draft record = .ok next → reset next = reset record
  kept
    : field.name ≠ name →
        ∀ draft record next, field.put draft record = .ok next →
          field.put draft (reset record) = .ok (reset next)

/-- An omittable field of another name stands apart if it puts its values elsewhere. -/
theorem RecordField.detaches_omittable {α : Type} {other : String} {read : Reader α}
    {put : α → σ → σ} (different : other ≠ name)
    (apart : ∀ value record, reset (put value record) = put value (reset record))
    : (omittable other read put).Detaches name reset where
  omitted _ := rfl
  clear same := absurd same different
  absorbed same := absurd same different
  kept _ draft record next done := by
    cases found : read draft with
    | error fault =>
        simp only [omittable, found, Except.map] at done
        cases done
    | ok value =>
        simp only [omittable, found, Except.map] at done ⊢
        obtain rfl := Except.ok.inj done
        rw [apart]

/-- An omittable field is cleared by what it reads from `null`. -/
theorem RecordField.detaches_self {α : Type} {read : Reader α} {put : α → σ → σ} {blank : α}
    (null : read .null = .ok blank) (clears : ∀ record, put blank record = reset record)
    (covered : ∀ value record, reset (put value record) = reset record)
    : (omittable name read put).Detaches name reset where
  omitted _ := rfl
  clear _ record := by simp only [omittable, null, Except.map, clears]
  absorbed _ draft record next done := by
    cases found : read draft with
    | error fault =>
        simp only [omittable, found, Except.map] at done
        cases done
    | ok value =>
        simp only [omittable, found, Except.map] at done
        obtain rfl := Except.ok.inj done
        exact covered value record
  kept different := absurd rfl different

/-- Leaving out a field that stands apart leaves the rest of the record as it is, by induction on
the fields. The names met may differ in the one left out.
-/
theorem RecordShape.readFields_without {shape : RecordShape σ}
    (each : ∀ field ∈ shape.fields, field.Detaches name reset) {ending : Ending}
    {fields : List (Option String × Draft)} {record last : σ} {seen others : List String}
    (same : ∀ other, other ≠ name → others.contains other = seen.contains other)
    (read : shape.readFields ending record seen fields = .ok last)
    : shape.readFields ending (reset record) others
        (fields.filter fun field => field.1 ≠ some name)
      = .ok (reset last) := by
  induction fields generalizing record seen others with
  | nil =>
      obtain ⟨closed, complete, rfl⟩ := readFields_nil_eq_ok.mp read
      refine readFields_nil_eq_ok.mpr ⟨closed, fun field present required => ?_, rfl⟩
      by_cases named : field.name = name
      · rw [(each field present).omitted named] at required
        cases required
      · rw [same field.name named]
        exact complete field present required
  | cons first rest ih =>
      obtain ⟨label, draft⟩ := first
      cases label with
      | none => cases read
      | some other =>
          rcases exists_put_or_skip read
            with ⟨field, next, found, new, put, read⟩ | ⟨missing, lenient, readable, read⟩
          · have called : field.name = other := by simpa using List.find?_some found
            have apart := each field (List.mem_of_find?_eq_some found)
            by_cases named : other = name
            · rw [List.filter_cons_of_neg (by simp [named]),
                ← apart.absorbed (called.trans named) _ _ _ put]
              refine ih (fun label different => ?_) read
              simp only [same label different, List.contains_cons, named, Bool.false_or,
                beq_eq_false_iff_ne.mpr different]
            · have fresh : others.contains other = false := (same other named).trans new
              have again := apart.kept (fun own => named (called.symm.trans own)) _ _ _ put
              rw [List.filter_cons_of_pos (by simp [named]), readFields_of_put found fresh again]
              refine ih (fun label different => ?_) read
              simp only [List.contains_cons, same label different]
          · by_cases named : other = name
            · rw [List.filter_cons_of_neg (by simp [named])]
              exact ih same read
            · rw [List.filter_cons_of_pos (by simp [named]),
                readFields_of_skip missing lenient readable]
              exact ih same read

/-- Clearing a field that stands apart leaves the rest of the record as it is, by induction on the
items.
-/
theorem RecordShape.readItems_without {ending : Ending} {items : List Draft}
    {fields : List (RecordField σ)} (each : ∀ field ∈ fields, field.Detaches name reset)
    {record last : σ} (read : readItems ending record fields items = .ok last)
    : readItems ending (reset record) fields (clearItems name fields items)
      = .ok (reset last) := by
  induction items generalizing fields record with
  | nil =>
      have bare : clearItems name fields [] = [] := by cases fields <;> rfl
      rw [bare]
      simp only [readItems] at read ⊢
      split at read
      · cases read
      rename_i closed
      rw [if_neg closed]
      split at read
      · cases read
      rename_i complete
      rw [if_neg complete, Except.ok.inj read]
  | cons item rest ih =>
      cases fields with
      | nil => cases read
      | cons field others =>
          rw [readItems] at read
          split at read
          · cases read
          · rename_i next put
            have apart := each field List.mem_cons_self
            have after := ih (fun other present => each other (List.mem_cons_of_mem _ present)) read
            rw [clearItems, readItems]
            by_cases named : field.name = name
            · have again := apart.clear named record
              rw [if_pos named, apart.clear named, apart.absorbed named _ _ _ again,
                ← apart.absorbed named _ _ _ put]
              exact after
            · rw [if_neg named, apart.kept named _ _ _ put]
              exact after

/-- A record whose fields stand apart from the one called `name` is read without it as before. -/
theorem RecordShape.read_without {shape : RecordShape σ} (blank : reset shape.blank = shape.blank)
    (each : ∀ field ∈ shape.fields, field.Detaches name reset) {draft : Draft} {record : σ}
    (read : shape.read draft = .ok record)
    : shape.read (shape.without name draft) = .ok (reset record) := by
  cases draft with
  | object fields ending =>
      have rest := readFields_without each (fun _ _ => rfl) read
      rwa [blank] at rest
  | array items ending =>
      have rest := readItems_without each read
      rwa [blank] at rest
  | null | bool | number | string | fault => cases read

end detached

end QueryTree.Json
