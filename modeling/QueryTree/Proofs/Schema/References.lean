import QueryTree.Proofs.Schema.Plain

/-! The references of a schema document. A document becomes a schema exactly if all of them hold:
supertypes and targets are types of the document, the members of a type have different names, and a
type is named by one of its properties. Otherwise the first one that does not hold is reported. The
schema of a document holds everything that the document declares.
-/

namespace QueryTree

namespace SchemaDocument

-----------------------------------------------------------------------------------------
-- References that hold, and the first one that does not
-----------------------------------------------------------------------------------------

/-- The references of a type hold, where `types` are the names of all types. -/
structure TypeEntry.Closed (entry : TypeEntry) (types : List String) : Prop where
  supertypes : ∀ supertype ∈ entry.supertypes, supertype ∈ types
  members : entry.memberIds.Nodup
  targets : ∀ relationship ∈ entry.relationships, relationship.target ∈ types
  naming : ∀ id, entry.naming = some id → ∃ property ∈ entry.properties, property.id = id

/-- The fault of the first reference of a type that does not hold: of its supertypes, of the names
of its members, of its targets, and of its naming, in that order.
-/
inductive TypeEntry.Violates (entry : TypeEntry) (types : List String) (name : String)
    : SchemaFault → Prop
  | supertype {before supertype after} (split : entry.supertypes = before ++ supertype :: after)
    (known : ∀ earlier ∈ before, earlier ∈ types) (unknown : supertype ∉ types)
    : entry.Violates types name (.unknownSupertype name supertype)
  /-- Properties come before relationships. -/
  | member {before member after} (supertypes : ∀ supertype ∈ entry.supertypes, supertype ∈ types)
    (split : entry.memberIds = before ++ member :: after) (distinct : before.Nodup)
    (repeated : member ∈ before)
    : entry.Violates types name (.duplicateMember name member)
  | target {before relationship after}
    (supertypes : ∀ supertype ∈ entry.supertypes, supertype ∈ types)
    (members : entry.memberIds.Nodup)
    (split : entry.relationships = before ++ relationship :: after)
    (known : ∀ earlier ∈ before, earlier.target ∈ types) (unknown : relationship.target ∉ types)
    : entry.Violates types name (.unknownTarget name relationship.id relationship.target)
  | naming {id} (supertypes : ∀ supertype ∈ entry.supertypes, supertype ∈ types)
    (members : entry.memberIds.Nodup)
    (targets : ∀ relationship ∈ entry.relationships, relationship.target ∈ types)
    (named : entry.naming = some id) (absent : ∀ property ∈ entry.properties, property.id ≠ id)
    : entry.Violates types name (.unknownNamingProperty name id)

/-- All references of a document hold. -/
def Closed (document : SchemaDocument) : Prop :=
  ∀ entry ∈ document.types.entries, entry.2.Closed document.types.names

/-- The fault of the first type, in order of the names, with a reference that does not hold. -/
def FirstFault (document : SchemaDocument) (fault : SchemaFault) : Prop :=
  ∃ before name entry after,
    document.types.entries = before ++ (name, entry) :: after
    ∧ (∀ earlier ∈ before, earlier.2.Closed document.types.names)
    ∧ entry.Violates document.types.names name fault

-----------------------------------------------------------------------------------------
-- The searches for a reference that does not hold
-----------------------------------------------------------------------------------------

section searches

variable {α : Type} {types : NameMap TypeEntry} {key : α → String} {describe : α → SchemaFault}
  {items : List α} {fault : SchemaFault}

/-- The fault of the first item whose key is not a type. -/
def unknownFault? (types : NameMap TypeEntry) (key : α → String) (describe : α → SchemaFault)
    (items : List α)
    : Option SchemaFault :=
  (items.find? fun item => !types.contains (key item)).map describe

theorem unknownFault?_eq_none
    : unknownFault? types key describe items = none ↔ ∀ item ∈ items, key item ∈ types.names := by
  simp [unknownFault?, ← NameMap.contains_iff]

theorem unknownFault?_eq_some
    : unknownFault? types key describe items = some fault
      ↔ ∃ before item after,
          items = before ++ item :: after
          ∧ (∀ earlier ∈ before, key earlier ∈ types.names)
          ∧ key item ∉ types.names
          ∧ describe item = fault := by
  simp only [unknownFault?, Option.map_eq_some_iff, List.find?_eq_some_iff_append,
    ← NameMap.contains_iff, Bool.not_eq_true', Bool.not_eq_false', Bool.not_eq_true]
  constructor
  · rintro ⟨item, ⟨unknown, before, after, split, known⟩, rfl⟩
    exact ⟨before, item, after, split, known, unknown, rfl⟩
  · rintro ⟨before, item, after, split, known, unknown, rfl⟩
    exact ⟨item, ⟨unknown, before, after, split, known⟩, rfl⟩

theorem firstRepeated?_cons_of_mem {seen rest : List String} {name : String} (old : name ∈ seen)
    : firstRepeated? seen (name :: rest) = some name := by
  simp [firstRepeated?, old]

theorem firstRepeated?_cons_of_not_mem {seen rest : List String} {name : String}
    (new : name ∉ seen)
    : firstRepeated? seen (name :: rest) = firstRepeated? (name :: seen) rest := by
  simp [firstRepeated?, new]

theorem firstRepeated?_eq_none {seen names : List String}
    : firstRepeated? seen names = none ↔ names.Nodup ∧ ∀ name ∈ names, name ∉ seen := by
  induction names generalizing seen with
  | nil => simp [firstRepeated?]
  | cons name rest ih =>
      by_cases old : name ∈ seen
      · simp [firstRepeated?_cons_of_mem old, old]
      · rw [firstRepeated?_cons_of_not_mem old, ih, List.nodup_cons, List.forall_mem_cons]
        constructor
        · rintro ⟨distinct, fresh⟩
          refine ⟨⟨?_, distinct⟩, old, ?_⟩
          · intro again
            exact fresh name again List.mem_cons_self
          · intro other present seenToo
            exact fresh other present (List.mem_cons_of_mem _ seenToo)
        · rintro ⟨⟨absent, distinct⟩, _, fresh⟩
          refine ⟨distinct, ?_⟩
          intro other present found
          rcases List.mem_cons.mp found with rfl | seenToo
          · exact absent present
          · exact fresh other present seenToo

/-- The name that is found stands among the names before it, or was seen before all of them. -/
theorem firstRepeated?_eq_some {seen names : List String} {repeated : String}
    : firstRepeated? seen names = some repeated
      ↔ ∃ before after,
          names = before ++ repeated :: after
          ∧ firstRepeated? seen before = none
          ∧ repeated ∈ before ++ seen := by
  induction names generalizing seen with
  | nil => simp [firstRepeated?]
  | cons name rest ih =>
      by_cases old : name ∈ seen
      · rw [firstRepeated?_cons_of_mem old]
        constructor
        · rintro ⟨⟩
          exact ⟨[], rest, rfl, rfl, old⟩
        · rintro ⟨_ | ⟨first, others⟩, after, split, distinct, _⟩
          · exact congrArg some (List.cons.inj split).1
          · obtain ⟨rfl, _⟩ := List.cons.inj split
            rw [firstRepeated?_cons_of_mem old] at distinct
            cases distinct
      · rw [firstRepeated?_cons_of_not_mem old, ih]
        constructor
        · rintro ⟨before, after, rfl, distinct, again⟩
          refine ⟨name :: before, after, rfl, ?_, List.perm_middle.mem_iff.mp again⟩
          rwa [firstRepeated?_cons_of_not_mem old]
        · rintro ⟨_ | ⟨first, others⟩, after, split, distinct, again⟩
          · obtain ⟨rfl, _⟩ := List.cons.inj split
            exact absurd again old
          · obtain ⟨rfl, rfl⟩ := List.cons.inj split
            rw [firstRepeated?_cons_of_not_mem old] at distinct
            exact ⟨others, after, rfl, distinct, List.perm_middle.mem_iff.mpr again⟩

/-- The fault of the first member that repeats a name. -/
def repeatedFault? (name : String) (members : List String) : Option SchemaFault :=
  (firstRepeated? [] members).map (.duplicateMember name)

theorem repeatedFault?_eq_none {name : String} {members : List String}
    : repeatedFault? name members = none ↔ members.Nodup := by
  rw [repeatedFault?, Option.map_eq_none_iff, firstRepeated?_eq_none]
  exact and_iff_left fun _ _ => List.not_mem_nil

theorem repeatedFault?_eq_some {name : String} {members : List String}
    : repeatedFault? name members = some fault
      ↔ ∃ before member after,
          members = before ++ member :: after
          ∧ before.Nodup
          ∧ member ∈ before
          ∧ .duplicateMember name member = fault := by
  simp only [repeatedFault?, Option.map_eq_some_iff, firstRepeated?_eq_some,
    firstRepeated?_eq_none, List.append_nil]
  constructor
  · rintro ⟨member, ⟨before, after, split, ⟨distinct, _⟩, again⟩, rfl⟩
    exact ⟨before, member, after, split, distinct, again, rfl⟩
  · rintro ⟨before, member, after, split, distinct, again, rfl⟩
    exact ⟨member, ⟨before, after, split, ⟨distinct, fun _ _ => List.not_mem_nil⟩, again⟩, rfl⟩

/-- The fault of a naming that is not one of the properties. -/
def namingFault? (name : String) (naming : Option String) (properties : List PropertyEntry)
    : Option SchemaFault :=
  match naming with
  | none => none
  | some id =>
      if properties.any fun property => property.id == id then none
      else some (.unknownNamingProperty name id)

theorem namingFault?_eq_none {name : String} {naming : Option String}
    {properties : List PropertyEntry}
    : namingFault? name naming properties = none
      ↔ ∀ id, naming = some id → ∃ property ∈ properties, property.id = id := by
  cases naming <;> simp [namingFault?]

theorem namingFault?_eq_some {name : String} {naming : Option String}
    {properties : List PropertyEntry}
    : namingFault? name naming properties = some fault
      ↔ ∃ id,
          naming = some id
          ∧ (∀ property ∈ properties, property.id ≠ id)
          ∧ .unknownNamingProperty name id = fault := by
  cases naming <;> simp [namingFault?]

end searches

-----------------------------------------------------------------------------------------
-- What the searches find of a type
-----------------------------------------------------------------------------------------

section types

variable {document : SchemaDocument} {name : String} {entry : TypeEntry} {fault : SchemaFault}

/-- A type is searched four times, and the first fault counts. -/
theorem typeFault?_eq_or (document : SchemaDocument) (name : String) (entry : TypeEntry)
    : document.typeFault? name entry
      = (unknownFault? document.types id (.unknownSupertype name) entry.supertypes).or
          ((repeatedFault? name entry.memberIds).or
            ((unknownFault? document.types RelationshipEntry.target
                (fun declared => .unknownTarget name declared.id declared.target)
                entry.relationships).or
              (namingFault? name entry.naming entry.properties))) := by
  unfold typeFault? unknownFault? repeatedFault? namingFault?
  simp only [id_eq]
  split
  · rename_i found
    rw [found, Option.map_some, Option.some_or]
  · rename_i supertypes
    rw [supertypes, Option.map_none, Option.none_or]
    split
    · rename_i found
      rw [found, Option.map_some, Option.some_or]
    · rename_i members
      rw [members, Option.map_none, Option.none_or]
      split
      · rename_i found
        rw [found, Option.map_some, Option.some_or]
      · rename_i targets
        rw [targets, Option.map_none]
        rfl

/-- A type has no fault exactly if its references hold. -/
theorem typeFault?_eq_none
    : document.typeFault? name entry = none ↔ entry.Closed document.types.names := by
  simp only [typeFault?_eq_or, Option.or_eq_none_iff, unknownFault?_eq_none,
    repeatedFault?_eq_none, namingFault?_eq_none]
  constructor
  · rintro ⟨supertypes, members, targets, naming⟩
    exact ⟨supertypes, members, targets, naming⟩
  · rintro ⟨supertypes, members, targets, naming⟩
    exact ⟨supertypes, members, targets, naming⟩

/-- The fault of a type is that of the first of its references that does not hold. -/
theorem typeFault?_eq_some
    : document.typeFault? name entry = some fault
      ↔ entry.Violates document.types.names name fault := by
  simp only [typeFault?_eq_or, Option.or_eq_some_iff, unknownFault?_eq_none,
    unknownFault?_eq_some, repeatedFault?_eq_none, repeatedFault?_eq_some, namingFault?_eq_some]
  constructor
  · rintro (⟨before, supertype, after, split, known, unknown, rfl⟩ | ⟨supertypes, later⟩)
    · exact .supertype split known unknown
    rcases later with ⟨before, member, after, split, distinct, again, rfl⟩ | ⟨members, later⟩
    · exact .member supertypes split distinct again
    rcases later with ⟨before, declared, after, split, known, unknown, rfl⟩ | ⟨targets, later⟩
    · exact .target supertypes members split known unknown
    obtain ⟨id, named, absent, rfl⟩ := later
    exact .naming supertypes members targets named absent
  · intro violates
    cases violates with
    | supertype split known unknown => exact .inl ⟨_, _, _, split, known, unknown, rfl⟩
    | member supertypes split distinct again =>
        exact .inr ⟨supertypes, .inl ⟨_, _, _, split, distinct, again, rfl⟩⟩
    | target supertypes members split known unknown =>
        exact .inr ⟨supertypes, .inr ⟨members, .inl ⟨_, _, _, split, known, unknown, rfl⟩⟩⟩
    | naming supertypes members targets named absent =>
        exact .inr ⟨supertypes, .inr ⟨members, .inr ⟨targets, _, named, absent, rfl⟩⟩⟩

end types

-----------------------------------------------------------------------------------------
-- What is decided type by type, decided of the document
-----------------------------------------------------------------------------------------

section document

variable {document : SchemaDocument} {schema : Schema}

theorem fault?_eq_none : document.fault? = none ↔ document.Closed := by
  unfold fault? Closed
  simp only [List.findSome?_eq_none_iff, typeFault?_eq_none]

theorem fault?_eq_some {fault : SchemaFault}
    : document.fault? = some fault ↔ document.FirstFault fault := by
  unfold fault? FirstFault
  simp only [List.findSome?_eq_some_iff, typeFault?_eq_none, typeFault?_eq_some]
  constructor
  · rintro ⟨before, ⟨name, entry⟩, after, split, violates, sound⟩
    exact ⟨before, name, entry, after, split, sound, violates⟩
  · rintro ⟨before, name, entry, after, split, sound, violates⟩
    exact ⟨before, (name, entry), after, split, violates, sound⟩

theorem closed_of_toSchema (valid : document.toSchema = .ok schema) : document.Closed := by
  unfold toSchema at valid
  split at valid
  · cases valid
  · rename_i sound
    exact fault?_eq_none.mp sound

theorem toSchema_eq_error {fault : SchemaFault}
    : document.toSchema = .error fault ↔ document.FirstFault fault := by
  rw [← fault?_eq_some]
  unfold toSchema
  split <;> simp [*]

end document

end SchemaDocument

end QueryTree
