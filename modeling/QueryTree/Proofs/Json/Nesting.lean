import QueryTree.Proofs.Json.Scanning
import QueryTree.Proofs.List

/-! How deep a value nests, and that this alone decides whether what was written is read back. The
brackets of a text nest as deep as the value that was written, and a value that was read nests no
deeper than the reader has room for.
-/

namespace QueryTree.Json

mutual

/-- How deep the arrays and objects of a value nest. -/
def height : Json → Nat
  | .null | .bool _ | .number _ | .string _ => 0
  | .array items => itemsHeight items + 1
  | .object fields => fieldsHeight fields + 1
termination_by structural value => value

def itemsHeight : List Json → Nat
  | [] => 0
  | item :: items => max item.height (itemsHeight items)
termination_by structural items => items

def fieldsHeight : List (String × Json) → Nat
  | [] => 0
  | field :: fields => max (fieldHeight field) (fieldsHeight fields)
termination_by structural fields => fields

def fieldHeight : String × Json → Nat
  | (_, value) => value.height
termination_by structural field => field

end

theorem itemsHeight_le_iff {items : List Json} {bound : Nat}
    : itemsHeight items ≤ bound ↔ ∀ item ∈ items, item.height ≤ bound :=
  greatest_le_iff rfl fun _ _ => rfl

theorem fieldsHeight_le_iff {fields : List (String × Json)} {bound : Nat}
    : fieldsHeight fields ≤ bound ↔ ∀ field ∈ fields, field.2.height ≤ bound :=
  greatest_le_iff rfl fun ⟨_, _⟩ _ => rfl

/-- A field of a new name stands behind the others. -/
theorem setField_of_not_mem {name : String} {value : Json} {fields : List (String × Json)}
    (new : name ∉ fields.map Prod.fst)
    : setField name value fields = fields ++ [(name, value)] := by
  induction fields with
  | nil => rfl
  | cons field rest ih =>
      simp only [List.map_cons, List.mem_cons, not_or] at new
      rw [setField, if_neg (Ne.symm new.1), ih new.2, List.cons_append]

/-- Where names differ, nothing is replaced. -/
theorem lastWins_of_nodup {fields : List (String × Json)} (distinct : (fields.map Prod.fst).Nodup)
    : lastWins fields = fields := by
  -- Fields are set one after the other, into those that were set before.
  have kept (done rest : List (String × Json))
      (distinct : ((done ++ rest).map Prod.fst).Nodup)
      : rest.foldl (fun kept field => setField field.1 field.2 kept) done = done ++ rest := by
    induction rest generalizing done with
    | nil => simp
    | cons field rest ih =>
        have new : field.1 ∉ done.map Prod.fst := by
          rw [List.map_append, List.nodup_append] at distinct
          exact fun present => distinct.2.2 _ present _ List.mem_cons_self rfl
        rw [List.foldl_cons, setField_of_not_mem new, ih _ (by simpa using distinct)]
        simp
  exact kept [] fields distinct

/-- Items that are each read back within what they nest are read back together, by induction on the
items.
-/
theorem items?_toDrafts {room : Nat} {items : List Json}
    (each
      : ∀ item ∈ items,
          item.toDraft.value? room = if item.height ≤ room then some item else none)
    : Draft.items? room (toDrafts items)
      = if itemsHeight items ≤ room then some items else none := by
  induction items with
  | nil => rfl
  | cons item rest ih =>
      have after := ih fun other present => each other (List.mem_cons_of_mem _ present)
      rw [toDrafts, Draft.items?, each item List.mem_cons_self, itemsHeight, after]
      by_cases here : item.height ≤ room
      · by_cases there : itemsHeight rest ≤ room
        · rw [if_pos here, if_pos there, if_pos (Nat.max_le.mpr ⟨here, there⟩)]
          rfl
        · rw [if_pos here, if_neg there, if_neg fun both => there (Nat.max_le.mp both).2]
          rfl
      · rw [if_neg here, if_neg fun both => here (Nat.max_le.mp both).1]

/-- Fields whose values are each read back within what they nest are read back together, by
induction on the fields.
-/
theorem fields?_toDraftFields {room : Nat} {fields : List (String × Json)}
    (each
      : ∀ field ∈ fields,
          field.2.toDraft.value? room = if field.2.height ≤ room then some field.2 else none)
    : Draft.fields? room (toDraftFields fields)
      = if fieldsHeight fields ≤ room then some fields else none := by
  induction fields with
  | nil => rfl
  | cons field rest ih =>
      obtain ⟨name, value⟩ := field
      have after := ih fun other present => each other (List.mem_cons_of_mem _ present)
      have first := each (name, value) List.mem_cons_self
      rw [toDraftFields, toDraftField, Draft.fields?, Draft.field?, first, fieldsHeight,
        fieldHeight, after]
      by_cases here : value.height ≤ room
      · by_cases there : fieldsHeight rest ≤ room
        · rw [if_pos here, if_pos there, if_pos (Nat.max_le.mpr ⟨here, there⟩)]
          rfl
        · rw [if_pos here, if_neg there, if_neg fun both => there (Nat.max_le.mp both).2]
          rfl
      · rw [if_neg here, if_neg fun both => here (Nat.max_le.mp both).1]
        rfl

/-- A canonical value is read back from its draft if it nests no deeper than there is room, and
otherwise nothing is, by induction on the value.
-/
theorem value?_toDraft {value : Json} (canonical : value.Canonical) (room : Nat)
    : value.toDraft.value? room = if value.height ≤ room then some value else none := by
  induction value generalizing room with
  | null => rfl
  | bool value => rfl
  | number value => rfl
  | string text => rfl
  | array items ih =>
      cases canonical with
      | array each =>
          -- The brackets of the array take up one level, and the items have to do with the rest.
          have within
              : Draft.items? (room - 1) (toDrafts items)
                = if itemsHeight items ≤ room - 1 then some items else none :=
            items?_toDrafts fun item present => ih item present (each item present) _
          cases room with
          | zero => simp [toDraft, Draft.value?, height]
          | succ room =>
              rw [toDraft, Draft.value?, within, height]
              by_cases fits : itemsHeight items ≤ room <;> simp [fits]
  | object fields ih =>
      cases canonical with
      | object each distinct =>
          have within
              : Draft.fields? (room - 1) (toDraftFields fields)
                = if fieldsHeight fields ≤ room - 1 then some fields else none :=
            fields?_toDraftFields fun field present => ih field present (each field present) _
          cases room with
          | zero => simp [toDraft, Draft.value?, height]
          | succ room =>
              rw [toDraft, Draft.value?, within, height]
              by_cases fits : fieldsHeight fields ≤ room <;>
                simp [fits, lastWins_of_nodup distinct]

section brackets

/-- How many brackets are open after a token. -/
def Token.openAfter (level : Nat) : Token → Nat
  | .openArray | .openObject => level + 1
  | .closeArray | .closeObject => level - 1
  | _ => level

/-- The most brackets that are open at once in tokens, where `level` are open before them. -/
def peak (level : Nat) : List Token → Nat
  | [] => level
  | token :: rest => max level (peak (token.openAfter level) rest)

/-- How deep the brackets of a text nest; those inside strings are no brackets. -/
def nesting (text : String) : Nat :=
  peak 0 (tokens text.toList)

theorem le_peak (level : Nat) (tokens : List Token) : level ≤ peak level tokens := by
  cases tokens with
  | nil => exact Nat.le_refl level
  | cons token rest => exact Nat.le_max_left ..

theorem peak_itemTokens {items : List Json}
    (each
      : ∀ item ∈ items, ∀ level rest,
          peak level (item.tokensOf ++ rest) = max (level + item.height) (peak level rest))
    (level : Nat) (rest : List Token)
    : peak level (itemTokens items ++ rest)
      = max (level + itemsHeight items) (peak level rest) := by
  induction items with
  | nil =>
      have bound := le_peak level rest
      simp only [itemTokens, List.nil_append, itemsHeight]
      omega
  | cons item items ih =>
      have after := ih fun other present => each other (List.mem_cons_of_mem _ present)
      have first := each item List.mem_cons_self level (itemTokens items ++ rest)
      simp only [itemTokens, List.cons_append, List.append_assoc, peak, Token.openAfter, first,
        after, itemsHeight]
      omega

theorem peak_fieldTokens {field : String × Json} {level : Nat} {rest : List Token}
    (inner
      : peak level (field.2.tokensOf ++ rest) = max (level + field.2.height) (peak level rest))
    : peak level (fieldTokens field ++ rest)
      = max (level + fieldHeight field) (peak level rest) := by
  obtain ⟨name, value⟩ := field
  simp only [fieldTokens, List.cons_append, peak, Token.openAfter, inner, fieldHeight]
  omega

theorem peak_fieldsTokens {fields : List (String × Json)}
    (each
      : ∀ field ∈ fields, ∀ level rest,
          peak level (field.2.tokensOf ++ rest) = max (level + field.2.height) (peak level rest))
    (level : Nat) (rest : List Token)
    : peak level (fieldsTokens fields ++ rest)
      = max (level + fieldsHeight fields) (peak level rest) := by
  induction fields with
  | nil =>
      have bound := le_peak level rest
      simp only [fieldsTokens, List.nil_append, fieldsHeight]
      omega
  | cons field fields ih =>
      have after := ih fun other present => each other (List.mem_cons_of_mem _ present)
      have first := peak_fieldTokens
        (each field List.mem_cons_self level (fieldsTokens fields ++ rest))
      simp only [fieldsTokens, List.cons_append, List.append_assoc, peak, Token.openAfter, first,
        after, fieldsHeight]
      omega

/-- The brackets of a value's tokens nest as deep as the value, by induction on the value: they are
all closed again, so what comes after them starts at the same level.
-/
theorem peak_tokensOf (value : Json) (level : Nat) (rest : List Token)
    : peak level (value.tokensOf ++ rest) = max (level + value.height) (peak level rest) := by
  induction value generalizing level rest with
  | null | bool value | number value | string text =>
      have bound := le_peak level rest
      simp only [tokensOf, List.cons_append, List.nil_append, peak, Token.openAfter, height]
      omega
  | array items ih =>
      cases items with
      | nil =>
          simp only [tokensOf, List.cons_append, List.nil_append, peak, Token.openAfter,
            Nat.add_sub_cancel, height, itemsHeight]
          omega
      | cons item items =>
          have first := ih item List.mem_cons_self
          have others := peak_itemTokens fun other present =>
            ih other (List.mem_cons_of_mem _ present)
          simp only [tokensOf, List.cons_append, List.append_assoc, peak, Token.openAfter, first,
            others, List.nil_append, Nat.add_sub_cancel, height, itemsHeight]
          omega
  | object fields ih =>
      cases fields with
      | nil =>
          simp only [tokensOf, List.cons_append, List.nil_append, peak, Token.openAfter,
            Nat.add_sub_cancel, height, fieldsHeight]
          omega
      | cons field fields =>
          have first (level : Nat) (rest : List Token) := peak_fieldTokens
            (ih field List.mem_cons_self level rest)
          have others := peak_fieldsTokens fun other present =>
            ih other (List.mem_cons_of_mem _ present)
          simp only [tokensOf, List.cons_append, List.append_assoc, peak, Token.openAfter, first,
            others, List.nil_append, Nat.add_sub_cancel, height, fieldsHeight]
          omega

/-- The text of a canonical value nests as deep as the value, in either layout. -/
theorem nesting_write {value : Json} (canonical : value.Canonical) (layout : Layout)
    : nesting (value.write layout) = value.height := by
  have whole := peak_tokensOf value 0 []
  rw [List.append_nil] at whole
  rw [nesting, tokens_write canonical, whole]
  simp [peak]

end brackets

section accepted

/-- A field nests no deeper with another value than the value and the field it replaces. -/
theorem fieldsHeight_setField {name : String} {value : Json} {fields : List (String × Json)}
    : fieldsHeight (setField name value fields) ≤ max value.height (fieldsHeight fields) := by
  induction fields with
  | nil => simp [setField, fieldsHeight, fieldHeight]
  | cons field rest ih =>
      obtain ⟨other, inner⟩ := field
      rw [setField]
      split
      · simp only [fieldsHeight, fieldHeight]
        omega
      · simp only [fieldsHeight, fieldHeight]
        omega

theorem fieldsHeight_lastWins (fields : List (String × Json))
    : fieldsHeight (lastWins fields) ≤ fieldsHeight fields := by
  -- Whatever is kept so far nests within the bound, and so does every field still to be set.
  have kept (bound : Nat) (done rest : List (String × Json)) (doneFits : fieldsHeight done ≤ bound)
      (restFits : fieldsHeight rest ≤ bound)
      : fieldsHeight (rest.foldl (fun kept field => setField field.1 field.2 kept) done)
        ≤ bound := by
    induction rest generalizing done with
    | nil => exact doneFits
    | cons field rest ih =>
        obtain ⟨name, value⟩ := field
        have parts := Nat.max_le.mp restFits
        refine ih _ (Nat.le_trans fieldsHeight_setField ?_) parts.2
        exact Nat.max_le.mpr ⟨parts.1, doneFits⟩
  exact kept _ [] fields (Nat.zero_le _) (Nat.le_refl _)

mutual

/-- A value that was read within some room nests no deeper, by recursion on the draft. Fields that
were replaced by later ones had to fit as well.
-/
theorem height_le_of_value? {room : Nat} (draft : Draft) {value : Json}
    (read : draft.value? room = some value)
    : value.height ≤ room := by
  cases draft with
  | null | bool =>
      cases read
      exact Nat.zero_le room
  | number | string =>
      obtain ⟨_, _, rfl⟩ := Option.map_eq_some_iff.mp read
      exact Nat.zero_le room
  | array items ending =>
      cases ending with
      | broken => cases read
      | closed =>
          rw [Draft.value?] at read
          split at read
          · cases read
          · obtain ⟨values, inner, rfl⟩ := Option.map_eq_some_iff.mp read
            have below := height_le_of_items? items inner
            rw [height]
            omega
  | object fields ending =>
      cases ending with
      | broken => cases read
      | closed =>
          rw [Draft.value?] at read
          split at read
          · cases read
          · obtain ⟨values, inner, rfl⟩ := Option.map_eq_some_iff.mp read
            have below := height_le_of_fields? fields inner
            have kept := fieldsHeight_lastWins values
            rw [height]
            omega
  | fault => cases read

theorem height_le_of_items? {room : Nat} (items : List Draft) {values : List Json}
    (read : Draft.items? room items = some values)
    : itemsHeight values ≤ room := by
  cases items with
  | nil =>
      cases read
      exact Nat.zero_le room
  | cons item items =>
      rw [Draft.items?] at read
      split at read
      · cases read
      · rename_i value here
        obtain ⟨rest, after, rfl⟩ := Option.map_eq_some_iff.mp read
        exact Nat.max_le.mpr ⟨height_le_of_value? item here, height_le_of_items? items after⟩

theorem height_le_of_fields? {room : Nat} (fields : List (Option String × Draft))
    {values : List (String × Json)} (read : Draft.fields? room fields = some values)
    : fieldsHeight values ≤ room := by
  cases fields with
  | nil =>
      cases read
      exact Nat.zero_le room
  | cons field fields =>
      rw [Draft.fields?] at read
      split at read
      · cases read
      · rename_i entry here
        obtain ⟨rest, after, rfl⟩ := Option.map_eq_some_iff.mp read
        exact Nat.max_le.mpr ⟨height_le_of_field? field here, height_le_of_fields? fields after⟩

theorem height_le_of_field? {room : Nat} (field : Option String × Draft) {entry : String × Json}
    (read : Draft.field? room field = some entry)
    : fieldHeight entry ≤ room := by
  obtain ⟨name, draft⟩ := field
  cases name with
  | none => cases read
  | some name =>
      obtain ⟨value, inner, rfl⟩ := Option.map_eq_some_iff.mp read
      exact height_le_of_value? draft inner

end

end accepted
end QueryTree.Json
