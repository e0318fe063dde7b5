import QueryTree.Json.Draft

/-! The tokens of a value, and how they are put together to its draft. -/

namespace QueryTree.Json

/-- What passes from the items and fields of every value to the value holds of every value, by
recursion on its size.
-/
@[elab_as_elim, induction_eliminator]
theorem valueInduction {motive : Json → Prop}
    (null : motive .null)
    (bool : ∀ value, motive (.bool value))
    (number : ∀ value, motive (.number value))
    (string : ∀ text, motive (.string text))
    (array : ∀ items, (∀ item ∈ items, motive item) → motive (.array items))
    (object : ∀ fields, (∀ field ∈ fields, motive field.2) → motive (.object fields))
    (value : Json)
    : motive value := by
  -- The motive is passed down unchanged, so every recursive call only names a smaller value.
  have below (inner : Json) (_ : sizeOf inner < sizeOf value) : motive inner :=
    valueInduction null bool number string array object inner
  cases value with
  | null => exact null
  | bool value => exact bool value
  | number value => exact number value
  | string text => exact string text
  | array items =>
      refine array items fun item present => below item ?_
      have smaller := List.sizeOf_lt_of_mem present
      simp only [Json.array.sizeOf_spec]
      omega
  | object fields =>
      refine object fields fun field present => below field.2 ?_
      have smaller := List.sizeOf_lt_of_mem present
      obtain ⟨name, inner⟩ := field
      simp only [Prod.mk.sizeOf_spec] at smaller
      simp only [Json.object.sizeOf_spec]
      omega
termination_by sizeOf value

mutual

/-- The tokens of a value. -/
def tokensOf : Json → List Token
  | .null => [.null]
  | .bool value => [.bool value]
  | .number value => [.number (some value)]
  | .string text => [.string (some text)]
  | .array [] => [.openArray, .closeArray]
  | .array (item :: items) =>
      .openArray :: (tokensOf item ++ (itemTokens items ++ [.closeArray]))
  | .object [] => [.openObject, .closeObject]
  | .object (field :: fields) =>
      .openObject :: (fieldTokens field ++ (fieldsTokens fields ++ [.closeObject]))
termination_by structural value => value

/-- The tokens of the items after the first, each behind a comma. -/
def itemTokens : List Json → List Token
  | [] => []
  | item :: items => .comma :: (tokensOf item ++ itemTokens items)
termination_by structural items => items

/-- The tokens of the fields after the first, each behind a comma. -/
def fieldsTokens : List (String × Json) → List Token
  | [] => []
  | field :: fields => .comma :: (fieldTokens field ++ fieldsTokens fields)
termination_by structural fields => fields

def fieldTokens : String × Json → List Token
  | (name, value) => .string (some name) :: .colon :: tokensOf value
termination_by structural field => field

end

namespace Draft.Builder

/-- At the start of an array, the tokens of a value are read as those of its first item: none of
them starts with a closing bracket.
-/
theorem foldl_firstItem (value : Json) (stack : List Frame)
    : value.tokensOf.foldl step ⟨stack, .firstItem⟩
      = value.tokensOf.foldl step ⟨.items [] :: stack, .value⟩ := by
  cases value with
  | null => rfl
  | bool value => rfl
  | number value => rfl
  | string text => rfl
  | array items => cases items <;> rfl
  | object fields => cases fields <;> rfl

/-- The tokens of items after an item and the closing bracket complete the array, by induction on
the items.
-/
theorem foldl_items {items : List Json}
    (each
      : ∀ item ∈ items, ∀ stack,
          item.tokensOf.foldl step ⟨stack, .value⟩ = ⟨stack, .after item.toDraft⟩)
    (stack : List Frame) (done : List Draft) (last : Draft)
    : (itemTokens items ++ [Token.closeArray]).foldl step ⟨.items done :: stack, .after last⟩
      = ⟨stack, .after (.array (done.reverse ++ last :: toDrafts items) .closed)⟩ := by
  induction items generalizing done last with
  -- The builder keeps what it has read in reverse, so the last item goes in front of those done.
  | nil => simp [itemTokens, toDrafts, step]
  | cons item rest ih =>
      have after := ih fun other present => each other (List.mem_cons_of_mem _ present)
      have comma : step ⟨.items done :: stack, .after last⟩ .comma
          = ⟨.items (last :: done) :: stack, .value⟩ := rfl
      rw [itemTokens, List.cons_append, List.foldl_cons, comma, List.append_assoc,
        List.foldl_append, each item List.mem_cons_self, after]
      simp [toDrafts]

theorem foldl_field {name : String} {value : Json}
    (compiled
      : ∀ stack, value.tokensOf.foldl step ⟨stack, .value⟩ = ⟨stack, .after value.toDraft⟩)
    (stack : List Frame) (done : List (Option String × Draft))
    : (fieldTokens (name, value)).foldl step ⟨stack, .name done⟩
      = ⟨.fields done (some name) :: stack, .after value.toDraft⟩ := by
  rw [fieldTokens, List.foldl_cons, List.foldl_cons]
  exact compiled _

/-- The tokens of fields after a field and the closing bracket complete the object, by induction on
the fields.
-/
theorem foldl_fields {fields : List (String × Json)}
    (each
      : ∀ field ∈ fields, ∀ stack,
          field.2.tokensOf.foldl step ⟨stack, .value⟩ = ⟨stack, .after field.2.toDraft⟩)
    (stack : List Frame) (done : List (Option String × Draft)) (name : Option String)
    (last : Draft)
    : (fieldsTokens fields ++ [Token.closeObject]).foldl step
        ⟨.fields done name :: stack, .after last⟩
      = ⟨stack,
          .after (.object (done.reverse ++ (name, last) :: toDraftFields fields) .closed)⟩ := by
  induction fields generalizing done name last with
  | nil => simp [fieldsTokens, toDraftFields, step]
  | cons field rest ih =>
      obtain ⟨_, value⟩ := field
      have after := ih fun other present => each other (List.mem_cons_of_mem _ present)
      have comma : step ⟨.fields done name :: stack, .after last⟩ .comma
          = ⟨stack, .name ((name, last) :: done)⟩ := rfl
      rw [fieldsTokens, List.cons_append, List.foldl_cons, comma, List.append_assoc,
        List.foldl_append, foldl_field (each (_, value) List.mem_cons_self), after]
      simp [toDraftFields, toDraftField]

/-- The tokens of a value, where a value must come, are put together to its draft, by induction on
the value.
-/
theorem foldl_tokensOf (value : Json) (stack : List Frame)
    : value.tokensOf.foldl step ⟨stack, .value⟩ = ⟨stack, .after value.toDraft⟩ := by
  induction value generalizing stack with
  | null => rfl
  | bool value => rfl
  | number value => rfl
  | string text => rfl
  | array items ih =>
      cases items with
      | nil => rfl
      | cons item rest =>
          -- The first item is read where the array could still be empty, all others after a comma.
          have first := foldl_firstItem item stack
          have opened : step ⟨stack, .value⟩ .openArray = ⟨stack, .firstItem⟩ := rfl
          rw [tokensOf, List.foldl_cons, opened, List.foldl_append, first,
            ih item List.mem_cons_self,
            foldl_items fun other present => ih other (List.mem_cons_of_mem _ present)]
          simp [toDraft, toDrafts]
  | object fields ih =>
      cases fields with
      | nil => rfl
      | cons field rest =>
          obtain ⟨name, inner⟩ := field
          have first : (fieldTokens (name, inner)).foldl step ⟨stack, .firstName⟩
              = (fieldTokens (name, inner)).foldl step ⟨stack, .name []⟩ := rfl
          have opened : step ⟨stack, .value⟩ .openObject = ⟨stack, .firstName⟩ := rfl
          rw [tokensOf, List.foldl_cons, opened, List.foldl_append, first,
            foldl_field (ih (name, inner) List.mem_cons_self),
            foldl_fields fun other present => ih other (List.mem_cons_of_mem _ present)]
          simp [toDraft, toDraftFields, toDraftField]

theorem finish_tokensOf (value : Json)
    : (value.tokensOf.foldl step start).finish = ⟨value.toDraft, false⟩ := by
  rw [start, foldl_tokensOf]
  rfl

end Draft.Builder

end QueryTree.Json
