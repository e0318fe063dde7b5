import QueryTree.Expression.Decoding

/-! Which tag a tree is refused for. The objects of a stored tree that stand for nodes are placed by
their addresses, the positions taken on the way down from the root. The order of addresses is the
order of the nodes in the document. A tree with an object of no known kind is refused for the first
of them, whatever else is wrong with it; every other tree is read by its shape alone.
-/

namespace QueryTree

/-- A word is found by its own token only. -/
theorem Vocabulary.token_of_find? {α : Type} [Vocabulary α] {text : String} {word : α}
    (found : find? text = some word)
    : token word = text := by
  have same := List.find?_some found
  exact eq_of_beq same

namespace Expression

open Json (lookup)

-----------------------------------------------------------------------------------------
-- The objects that stand for nodes
-----------------------------------------------------------------------------------------

/-- The object has the tag of a kind. -/
def Tagged (node : List (String × Json)) (kind : ExpressionKind) : Prop :=
  lookup node "type" = some (.string kind.token)

/-- The object has the tag of no kind. -/
def Stranger (node : List (String × Json)) : Prop :=
  ∀ kind, ¬Tagged node kind

/-- What an object of no known kind is called. -/
def tagOf (node : List (String × Json)) : String :=
  match lookup node "type" with
  | some (.string tag) => tag
  | _ => missingKind

/-- What a tagged object has below it, each value with its position: the members of a group, the
query of a relationship, and the queries of the arms of a type switch that are objects.
-/
inductive Child (node : List (String × Json)) : Nat → Json → Prop
  | member {members : List Json} {index : Nat} {value : Json} (tagged : Tagged node .boolean)
    (listed : lookup node "subExpressions" = some (.array members))
    (found : members[index]? = some value)
    : Child node index value
  | related {value : Json}
    (tagged : Tagged node .relationship ∨ Tagged node .negatedRelationship)
    (found : lookup node "relationshipQuery" = some value)
    : Child node 0 value
  | arm {arms : List Json} {index : Nat} {fields : List (String × Json)} {value : Json}
    (tagged : Tagged node .typeSwitch)
    (listed : lookup node "typeQueries" = some (.array arms))
    (standing : arms[index]? = some (.object fields))
    (found : lookup fields "query" = some value)
    : Child node index value

/-- The object that stands for a node at an address below a value. -/
inductive NodeAt : Json → List Nat → List (String × Json) → Prop
  | root {node : List (String × Json)} : NodeAt (.object node) [] node
  | step {node inner : List (String × Json)} {index : Nat} {value : Json} {address : List Nat}
    (child : Child node index value) (placed : NodeAt value address inner)
    : NodeAt (.object node) (index :: address) inner

/-- An object of no known kind where a node is to stand. -/
def StrangerAt (value : Json) (address : List Nat) (node : List (String × Json)) : Prop :=
  NodeAt value address node ∧ Stranger node

/-- The first of the objects looked for. An object stands before those below it, and those below
it in the order of their positions.
-/
structure First (found : List Nat → List (String × Json) → Prop) (address : List Nat)
    (node : List (String × Json))
    : Prop where
  present : found address node
  least
    : ∀ other inner, found other inner → other = address ∨ List.Lex (· < ·) address other

-----------------------------------------------------------------------------------------
-- Tags and kinds
-----------------------------------------------------------------------------------------

theorem find?_token (kind : ExpressionKind) : Vocabulary.find? kind.token = some kind := by
  cases kind <;> rfl

theorem Tagged.unique {node : List (String × Json)} {kind other : ExpressionKind}
    (tagged : Tagged node kind) (again : Tagged node other)
    : kind = other := by
  have same : kind.token = other.token := by
    have tags := tagged.symm.trans again
    simpa using tags
  have found := find?_token kind
  rw [same, find?_token other] at found
  exact (Option.some.inj found).symm

/-- An object of no known kind is refused for its tag. -/
theorem Stranger.checkKinds {node : List (String × Json)} (stranger : Stranger node)
    : checkKinds (.object node) = .error (.unrecognizedKind (tagOf node)) := by
  rw [Expression.checkKinds]
  split
  case h_1 tag tagged =>
    have called : tagOf node = tag := by rw [tagOf, tagged]
    cases found : (Vocabulary.find? tag : Option ExpressionKind) with
    | none => rw [called]
    | some kind =>
        have token : kind.token = tag := Vocabulary.token_of_find? found
        subst token
        exact absurd tagged (stranger kind)
  case h_2 untagged =>
    have called : tagOf node = missingKind := by
      unfold tagOf
      split
      case h_1 tag tagged => exact absurd tagged (untagged tag)
      case h_2 => rfl
    rw [called]

-----------------------------------------------------------------------------------------
-- What the check goes through below an object
-----------------------------------------------------------------------------------------

/-- The items of a field that holds an array. -/
def itemsOf (node : List (String × Json)) (name : String) : List Json :=
  match lookup node name with
  | some (.array items) => items
  | _ => []

/-- The query of an arm. -/
def armQuery? : Json → Option Json
  | .object fields => lookup fields "query"
  | _ => none

/-- The slots below an object of a kind, in order, with what stands there. -/
def slots (node : List (String × Json)) : ExpressionKind → List (Option Json)
  | .boolean => (itemsOf node "subExpressions").map some
  | .relationship | .negatedRelationship => [lookup node "relationshipQuery"]
  | .typeSwitch => (itemsOf node "typeQueries").map armQuery?
  | .property | .name | .hasInsight | .negatedHasInsight => []

/-- The check of one slot: nothing is wrong with an empty one. -/
def checkSlot : Option Json → Except CompileFault Unit
  | some value => checkKinds value
  | none => .ok ()

section slots

variable {node : List (String × Json)} {name : String} {rest : List (Option Json)}

theorem itemsOf_eq_nil (unlisted : ∀ items, lookup node name = some (.array items) → False)
    : itemsOf node name = [] := by
  unfold itemsOf
  split
  case h_1 items listed => exact absurd listed (unlisted items)
  case h_2 => rfl

theorem getElem?_itemsOf {index : Nat} {item : Json}
    : (itemsOf node name)[index]? = some item
      ↔ ∃ items, lookup node name = some (.array items) ∧ items[index]? = some item := by
  unfold itemsOf
  split
  case h_1 items listed => simp [listed]
  case h_2 unlisted =>
    constructor
    · intro found
      cases found
    · intro ⟨items, listed, _⟩
      exact absurd listed (unlisted items)

/-- Slots are checked one after the other, up to the first fault. -/
theorem forM_of_error {slot : Option Json} {fault : CompileFault}
    (failed : checkSlot slot = .error fault)
    : (slot :: rest).forM checkSlot = .error fault := by
  simp [failed, bind, Except.bind]

theorem forM_of_ok {slot : Option Json} {done : Unit} (passed : checkSlot slot = .ok done)
    : (slot :: rest).forM checkSlot = rest.forM checkSlot := by
  simp [passed, bind, Except.bind]

theorem forM_single (slot : Option Json) : [slot].forM checkSlot = checkSlot slot := by
  cases outcome : checkSlot slot with
  | error fault => exact forM_of_error outcome
  | ok done => exact forM_of_ok outcome

end slots

theorem checkMemberKinds_eq_forM (members : List Json)
    : checkMemberKinds members = (members.map some).forM checkSlot := by
  induction members with
  | nil =>
      rw [checkMemberKinds]
      rfl
  | cons member rest ih =>
      rw [checkMemberKinds, ih, List.map_cons]
      have slot : checkSlot (some member) = checkKinds member := rfl
      rw [← slot]
      cases outcome : checkSlot (some member) with
      | error fault => exact (forM_of_error outcome).symm
      | ok done => exact (forM_of_ok outcome).symm

theorem checkArmKind_eq (arm : Json) : checkArmKind arm = checkSlot (armQuery? arm) := by
  cases arm with
  | object fields =>
      rw [checkArmKind, armQuery?]
      split
      case h_1 query found => rw [found, checkSlot]
      case h_2 missing => rw [missing, checkSlot]
  | _ =>
      rw [checkArmKind]
      · rfl
      · simp

theorem checkArmKinds_eq_forM (arms : List Json)
    : checkArmKinds arms = (arms.map armQuery?).forM checkSlot := by
  induction arms with
  | nil =>
      rw [checkArmKinds]
      rfl
  | cons arm rest ih =>
      rw [checkArmKinds, ih, checkArmKind_eq, List.map_cons]
      cases outcome : checkSlot (armQuery? arm) with
      | error fault => exact (forM_of_error outcome).symm
      | ok done => exact (forM_of_ok outcome).symm

/-- An object of a known kind is checked slot by slot. -/
theorem Tagged.checkKinds {node : List (String × Json)} {kind : ExpressionKind}
    (tagged : Tagged node kind)
    : checkKinds (.object node) = (slots node kind).forM checkSlot := by
  have tag : lookup node "type" = some (.string kind.token) := tagged
  rw [Expression.checkKinds, tag]
  simp only [find?_token]
  cases kind with
  | boolean =>
      simp only [slots]
      split
      case h_1 members listed => rw [itemsOf, listed, checkMemberKinds_eq_forM]
      case h_2 unlisted =>
        rw [itemsOf_eq_nil unlisted]
        rfl
  | relationship | negatedRelationship =>
      simp only [slots, forM_single]
      split
      case h_1 query found => rw [found, checkSlot]
      case h_2 missing => rw [missing, checkSlot]
  | typeSwitch =>
      simp only [slots]
      split
      case h_1 arms listed => rw [itemsOf, listed, checkArmKinds_eq_forM]
      case h_2 unlisted =>
        rw [itemsOf_eq_nil unlisted]
        rfl
  | property | name | hasInsight | negatedHasInsight => rfl

/-- What an object has below it stands in its slots, kind by kind. -/
theorem child_iff {node : List (String × Json)} {kind : ExpressionKind}
    (tagged : Tagged node kind) {index : Nat} {value : Json}
    : Child node index value ↔ (slots node kind)[index]? = some (some value) := by
  constructor
  · intro child
    cases child with
    | member group listed found =>
        have same := tagged.unique group
        subst same
        rw [slots, List.getElem?_map, getElem?_itemsOf.mpr ⟨_, listed, found⟩]
        rfl
    | related either found =>
        rcases either with plain | negated
        · have same := tagged.unique plain
          subst same
          rw [slots, found]
          rfl
        · have same := tagged.unique negated
          subst same
          rw [slots, found]
          rfl
    | arm switch listed standing found =>
        have same := tagged.unique switch
        subst same
        rw [slots, List.getElem?_map, getElem?_itemsOf.mpr ⟨_, listed, standing⟩]
        exact congrArg some found
  · intro standing
    cases kind with
    | boolean =>
        rw [slots, List.getElem?_map, Option.map_eq_some_iff] at standing
        obtain ⟨member, there, same⟩ := standing
        obtain ⟨members, listed, found⟩ := getElem?_itemsOf.mp there
        cases same
        exact .member tagged listed found
    | relationship =>
        rw [slots, List.getElem?_singleton, Option.ite_none_right_eq_some] at standing
        obtain ⟨first, found⟩ := standing
        subst first
        exact .related (.inl tagged) (Option.some.inj found)
    | negatedRelationship =>
        rw [slots, List.getElem?_singleton, Option.ite_none_right_eq_some] at standing
        obtain ⟨first, found⟩ := standing
        subst first
        exact .related (.inr tagged) (Option.some.inj found)
    | typeSwitch =>
        rw [slots, List.getElem?_map, Option.map_eq_some_iff] at standing
        obtain ⟨arm, there, found⟩ := standing
        obtain ⟨arms, listed, present⟩ := getElem?_itemsOf.mp there
        cases arm with
        | object fields => exact .arm tagged listed present found
        | _ => cases found
    | property | name | hasInsight | negatedHasInsight => cases standing

theorem Child.exists_tagged {node : List (String × Json)} {index : Nat} {value : Json}
    (child : Child node index value)
    : ∃ kind, Tagged node kind := by
  cases child with
  | member tagged => exact ⟨_, tagged⟩
  | related tagged => exact tagged.elim (fun plain => ⟨_, plain⟩) fun negated => ⟨_, negated⟩
  | arm tagged => exact ⟨_, tagged⟩

/-- What an object has below it depends on its position only. -/
theorem Child.unique {node : List (String × Json)} {index : Nat} {value other : Json}
    (child : Child node index value) (again : Child node index other)
    : value = other := by
  obtain ⟨kind, tagged⟩ := child.exists_tagged
  have standing := (child_iff tagged).mp child
  rw [(child_iff tagged).mp again] at standing
  exact (Option.some.inj (Option.some.inj standing)).symm

/-- What an object has below it is smaller than the object. -/
theorem Child.sizeOf_lt {node : List (String × Json)} {index : Nat} {value : Json}
    (child : Child node index value)
    : sizeOf value < sizeOf node := by
  cases child with
  | member tagged listed found =>
      have list := Json.sizeOf_lookup listed
      have member := List.sizeOf_lt_of_mem (List.mem_of_getElem? found)
      simp only [Json.array.sizeOf_spec] at list
      omega
  | related tagged found => exact Json.sizeOf_lookup found
  | arm tagged listed standing found =>
      have list := Json.sizeOf_lookup listed
      have arm := List.sizeOf_lt_of_mem (List.mem_of_getElem? standing)
      have query := Json.sizeOf_lookup found
      simp only [Json.array.sizeOf_spec] at list
      simp only [Json.object.sizeOf_spec] at arm
      omega

/-- At most one object stands at an address. -/
theorem NodeAt.unique {value : Json} {address : List Nat} {node other : List (String × Json)}
    (placed : NodeAt value address node) (again : NodeAt value address other)
    : node = other := by
  induction placed with
  | root =>
      cases again with
      | root => rfl
  | step child placed ih =>
      cases again with
      | step second below =>
          have same := child.unique second
          subst same
          exact ih below

-----------------------------------------------------------------------------------------
-- The check finds the first stranger
-----------------------------------------------------------------------------------------

/-- An outcome of looking for objects: nothing is wrong where there are none, and otherwise the tag
of the first is.
-/
def Reports (found : List Nat → List (String × Json) → Prop) : Except CompileFault Unit → Prop
  | .ok () => ∀ address node, ¬found address node
  | .error fault =>
      ∃ address node, First found address node ∧ fault = .unrecognizedKind (tagOf node)

/-- What is looked for in one of several slots, by the position of the slot. -/
inductive Among (slots : List (Option Json)) : List Nat → List (String × Json) → Prop
  | slot {index : Nat} {value : Json} {address : List Nat} {node : List (String × Json)}
    (standing : slots[index]? = some (some value)) (inside : StrangerAt value address node)
    : Among slots (index :: address) node

/-- What is found in several slots is found in the first of them or in the others, one position on.
-/
theorem Among.of_cons {slot : Option Json} {rest : List (Option Json)} {address : List Nat}
    {node : List (String × Json)} (among : Among (slot :: rest) address node)
    : (∃ value below, slot = some value ∧ address = 0 :: below ∧ StrangerAt value below node)
      ∨ ∃ index below, address = (index + 1) :: below ∧ Among rest (index :: below) node := by
  cases among with
  | @slot index value below _ standing inside =>
      cases index with
      | zero =>
          have here : slot = some value := by simpa using standing
          exact .inl ⟨value, below, here, rfl, inside⟩
      | succ index => exact .inr ⟨index, below, rfl, .slot standing inside⟩

/-- The first stranger of the first slot comes before those of all other slots. -/
theorem First.head {value : Json} {rest : List (Option Json)} {address : List Nat}
    {node : List (String × Json)} (first : First (StrangerAt value) address node)
    : First (Among (some value :: rest)) (0 :: address) node := by
  refine ⟨.slot rfl first.present, ?_⟩
  intro other inner among
  rcases among.of_cons with ⟨second, below, same, rfl, inside⟩ | ⟨index, below, rfl, _⟩
  · cases same
    rcases first.least below inner inside with rfl | before
    · exact .inl rfl
    · exact .inr (.cons before)
  · exact .inr (.rel index.succ_pos)

/-- Where there is no stranger in the first slot, the first one is that of the other slots. -/
theorem First.tail {slot : Option Json} {rest : List (Option Json)} {index : Nat}
    {address : List Nat} {node : List (String × Json)}
    (clear : ∀ value, slot = some value → ∀ address node, ¬StrangerAt value address node)
    (first : First (Among rest) (index :: address) node)
    : First (Among (slot :: rest)) ((index + 1) :: address) node := by
  constructor
  · cases first.present with
    | slot standing inside => exact .slot standing inside
  · intro other inner among
    rcases among.of_cons with ⟨value, below, here, rfl, inside⟩ | ⟨position, below, rfl, later⟩
    · exact absurd inside (clear value here below inner)
    · rcases first.least _ inner later with same | before
      · cases same
        exact .inl rfl
      · cases before with
        | rel less => exact .inr (.rel (Nat.succ_lt_succ less))
        | cons before => exact .inr (.cons before)

/-- Slots checked in order report the first stranger among them, if each reports its own; by
induction on the slots.
-/
theorem reports_forM {slots : List (Option Json)}
    (each : ∀ value, some value ∈ slots → Reports (StrangerAt value) (checkKinds value))
    : Reports (Among slots) (slots.forM checkSlot) := by
  induction slots with
  | nil =>
      intro address node among
      cases among with
      | slot standing inside => cases standing
  | cons slot rest ih =>
      have others := ih fun value present => each value (List.mem_cons_of_mem slot present)
      cases outcome : checkSlot slot with
      | error fault =>
          rw [forM_of_error outcome]
          cases slot with
          | none => cases outcome
          | some value =>
              have here := each value List.mem_cons_self
              rw [show checkKinds value = .error fault from outcome] at here
              obtain ⟨address, node, first, named⟩ := here
              exact ⟨0 :: address, node, first.head, named⟩
      | ok done =>
          have clear
              : ∀ value, slot = some value → ∀ address node, ¬StrangerAt value address node := by
            intro value same
            subst same
            have here := each value List.mem_cons_self
            rw [show checkKinds value = .ok done from outcome] at here
            exact here
          rw [forM_of_ok outcome]
          cases later : rest.forM checkSlot with
          | error fault =>
              rw [later] at others
              obtain ⟨address, node, first, named⟩ := others
              cases address with
              | nil => cases first.present
              | cons index address => exact ⟨(index + 1) :: address, node, first.tail clear, named⟩
          | ok done =>
              rw [later] at others
              intro address node among
              rcases among.of_cons with ⟨value, below, here, _, inside⟩ | ⟨index, below, _, later⟩
              · exact clear value here below node inside
              · exact others _ node later

/-- The strangers in an object of a known kind are those in its slots. -/
theorem Tagged.strangerAt_iff {node inner : List (String × Json)} {kind : ExpressionKind}
    (tagged : Tagged node kind) {address : List Nat}
    : StrangerAt (.object node) address inner ↔ Among (slots node kind) address inner := by
  constructor
  · intro ⟨placed, stranger⟩
    cases placed with
    | root => exact absurd tagged (stranger kind)
    | step child placed => exact .slot ((child_iff tagged).mp child) ⟨placed, stranger⟩
  · intro among
    cases among with
    | slot standing inside =>
        exact ⟨.step ((child_iff tagged).mpr standing) inside.1, inside.2⟩

/-- The check of the tags reports the first stranger, by recursion on the size of the value. -/
theorem reports_checkKinds (value : Json) : Reports (StrangerAt value) (checkKinds value) := by
  -- Induction on a value only reaches its fields, and the objects to check are deeper in them.
  cases value with
  | object node =>
      by_cases known : ∃ kind, Tagged node kind
      · obtain ⟨kind, tagged⟩ := known
        have each value (present : some value ∈ slots node kind)
            : Reports (StrangerAt value) (checkKinds value) := by
          obtain ⟨index, standing⟩ := List.mem_iff_getElem?.mp present
          have smaller := ((child_iff tagged).mpr standing).sizeOf_lt
          exact reports_checkKinds value
        have among := reports_forM each
        have same : StrangerAt (.object node) = Among (slots node kind) := by
          funext address inner
          exact propext tagged.strangerAt_iff
        rw [tagged.checkKinds, same]
        exact among
      · have stranger : Stranger node := fun kind tagged => known ⟨kind, tagged⟩
        rw [stranger.checkKinds]
        refine ⟨[], node, ⟨⟨.root, stranger⟩, ?_⟩, rfl⟩
        intro other inner found
        cases other with
        | nil => exact .inl rfl
        | cons index rest => exact .inr .nil
  | _ =>
      rw [checkKinds]
      · intro address node found
        cases found.1
      · simp
termination_by sizeOf value
decreasing_by
  simp only [Json.object.sizeOf_spec]
  omega

/-- There is only one first stranger. -/
theorem First.unique {value : Json} {address other : List Nat} {node inner : List (String × Json)}
    (first : First (StrangerAt value) address node)
    (again : First (StrangerAt value) other inner)
    : node = inner := by
  have same : other = address := by
    rcases first.least other inner again.present with same | before
    · exact same
    · rcases again.least address node first.present with same | after
      · exact same.symm
      · exact absurd after (List.lex_asymm Nat.lt_asymm before)
  subst same
  exact first.present.1.unique again.present.1

-----------------------------------------------------------------------------------------
-- The tag a value is refused for
-----------------------------------------------------------------------------------------

/-- Unknown kinds go before any fault of shape. A value is refused for a kind that is not known
exactly if an object of no known kind stands where a node is to stand, whatever the shape of the
value is, and the kind named is the tag of the first such object. Every other value is an
expression or does not have the shape of one.
-/
theorem ofJson_reports_first_unknown_tag (value : Json)
    : ((∃ kind, ofJson value = .error (.refused (.unrecognizedKind kind)))
        ↔ ∃ address node, NodeAt value address node ∧ Stranger node)
      ∧ (∀ kind,
          ofJson value = .error (.refused (.unrecognizedKind kind))
          ↔ ∃ address node, First (StrangerAt value) address node ∧ tagOf node = kind)
      ∧ (∀ fault,
          ofJson value = .error fault
          → (∃ kind, fault = .refused (.unrecognizedKind kind))
            ∨ fault = .unreadable .mismatch) := by
  have report := reports_checkKinds value
  cases outcome : checkKinds value with
  | error fault =>
      rw [outcome] at report
      obtain ⟨address, node, first, rfl⟩ := report
      have refused : ofJson value = .error (.refused (.unrecognizedKind (tagOf node))) := by
        rw [ofJson, outcome]
      rw [refused]
      refine ⟨⟨?_, ?_⟩, ?_, ?_⟩
      · intro _
        exact ⟨address, node, first.present⟩
      · intro _
        exact ⟨tagOf node, rfl⟩
      · intro kind
        constructor
        · intro same
          cases same
          exact ⟨address, node, first, rfl⟩
        · rintro ⟨other, inner, again, rfl⟩
          rw [first.unique again]
      · intro fault same
        cases same
        exact .inl ⟨tagOf node, rfl⟩
  | ok done =>
      rw [outcome] at report
      have fault_eq {fault : DecodeFault} (failed : ofJson value = .error fault)
          : fault = .unreadable .mismatch := by
        rw [ofJson, outcome] at failed
        cases decoded : decode? false value with
        | some expression => simp [decoded] at failed
        | none => simpa [decoded] using failed.symm
      refine ⟨⟨?_, ?_⟩, ?_, ?_⟩
      · intro ⟨kind, refused⟩
        cases fault_eq refused
      · intro ⟨address, node, found⟩
        exact absurd found (report address node)
      · intro kind
        constructor
        · intro refused
          cases fault_eq refused
        · intro ⟨address, node, first, _⟩
          exact absurd first.present (report address node)
      · intro fault failed
        exact .inr (fault_eq failed)

end Expression

end QueryTree
