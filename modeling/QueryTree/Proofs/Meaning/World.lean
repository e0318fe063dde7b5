import QueryTree.Code.Term

/-! What generated code means. A world says which entities there are, which types they have and what
their members hold; comparisons and functions are left to the world as well. Code is evaluated in a
world with lexical scoping: a variable stands for what the nearest binder around it has bound.
-/

namespace QueryTree

-----------------------------------------------------------------------------------------
-- Worlds and the values in them
-----------------------------------------------------------------------------------------

/-- What a member of an entity holds: one item or nothing, or a list of items. Entities are items,
and so are the values of properties.
-/
inductive Member (Item : Type) where
  | one (found : Option Item)
  | many (found : List Item)

def Member.item? {Item : Type} : Member Item → Option Item
  | .one found => found
  | .many _ => none

def Member.items {Item : Type} : Member Item → List Item
  | .one _ => []
  | .many found => found

inductive Value (Item : Type) where
  | ofMember (member : Member Item)
  | truth (holds : Bool)

namespace Value

variable {Item : Type}

def ofItem (item : Item) : Value Item :=
  .ofMember (.one (some item))

/-- The value of what is not there. -/
def absent : Value Item :=
  .ofMember (.one none)

def item? : Value Item → Option Item
  | .ofMember member => member.item?
  | .truth _ => none

def items : Value Item → List Item
  | .ofMember member => member.items
  | .truth _ => []

/-- Whether a value holds: a truth value that is true, or an item that is there. -/
def holds : Value Item → Bool
  | .ofMember member => member.item?.isSome
  | .truth holds => holds

@[simp]
theorem item?_ofMember (member : Member Item) : (ofMember member).item? = member.item? :=
  rfl

@[simp]
theorem items_ofMember (member : Member Item) : (ofMember member).items = member.items :=
  rfl

@[simp]
theorem holds_ofMember (member : Member Item) : (ofMember member).holds = member.item?.isSome :=
  rfl

@[simp]
theorem holds_truth (value : Bool) : (truth value : Value Item).holds = value :=
  rfl

end Value

/-- A world that code is evaluated in. What literals stand for, which values are comparable and how,
and what functions return is up to the world.
-/
structure World where
  Item : Type
  hasType : Item → String → Bool
  member : Item → String → Member Item
  constant : Literal → Item
  relation : String → Value Item → Value Item → Bool
  function : String → List (Value Item) → Value Item
  minus : Value Item → Value Item

namespace World

variable (world : World)

/-- What the variables in scope stand for. -/
abbrev Environment := String → Option world.Item

/-- The environment in which one more variable stands for an item, in place of whatever it stood for
before.
-/
def Environment.bind {world : World} (environment : world.Environment) (binder : String)
    (item : world.Item)
    : world.Environment :=
  fun name => if name = binder then some item else environment name

/-- What a literal stands for. -/
def literal : Literal → Value world.Item
  | .truth value => .truth value
  | other => .ofItem (world.constant other)

/-- What the member of a value holds; only items have members. -/
def memberOf (value : Value world.Item) (id : String) : Value world.Item :=
  match value.item? with
  | some item => .ofMember (world.member item id)
  | none => .absent

end World

-----------------------------------------------------------------------------------------
-- The values of terms
-----------------------------------------------------------------------------------------

namespace Term

mutual

/-- The value of a term in a world. -/
def eval (world : World) (environment : world.Environment) : Term → Value world.Item
  | .name text => .ofMember (.one (environment text))
  | .literal value => world.literal value
  | .member subject id => world.memberOf (subject.eval world environment) id
  | .group inner => inner.eval world environment
  | .not inner => .truth !(inner.eval world environment).holds
  | .minus inner => world.minus (inner.eval world environment)
  | .compare left symbol right =>
      .truth (world.relation symbol (left.eval world environment) (right.eval world environment))
  | .connect .and parts => .truth (allHold world environment parts)
  | .connect .or parts => .truth (someHold world environment parts)
  | .call function arguments => world.function function (evalAll world environment arguments)
  | .any collection binder body =>
      .truth ((collection.eval world environment).items.any fun item =>
        (body.eval world (environment.bind binder item)).holds)
  | .isEmpty collection => .truth (collection.eval world environment).items.isEmpty
  | .choose subject binder arms =>
      match (subject.eval world environment).item? with
      | some item => .truth (chosenHolds world (environment.bind binder item) item arms)
      | none => .truth false
termination_by structural term => term

def evalAll (world : World) (environment : world.Environment) : List Term → List (Value world.Item)
  | [] => []
  | term :: terms => term.eval world environment :: evalAll world environment terms
termination_by structural terms => terms

def allHold (world : World) (environment : world.Environment) : List Term → Bool
  | [] => true
  | term :: terms => (term.eval world environment).holds && allHold world environment terms
termination_by structural terms => terms

def someHold (world : World) (environment : world.Environment) : List Term → Bool
  | [] => false
  | term :: terms => (term.eval world environment).holds || someHold world environment terms
termination_by structural terms => terms

/-- Whether the first arm whose type the item has holds, in an environment that has the item bound
already. Without such an arm, nothing holds.
-/
def chosenHolds (world : World) (environment : world.Environment) (item : world.Item)
    : List (String × Term) → Bool
  | [] => false
  | arm :: arms =>
      if world.hasType item arm.1 then armHolds world environment arm
      else chosenHolds world environment item arms
termination_by structural arms => arms

def armHolds (world : World) (environment : world.Environment) : String × Term → Bool
  | (_, body) => (body.eval world environment).holds
termination_by structural arm => arm

end

section eval

variable (world : World) (environment : world.Environment)

-----------------------------------------------------------------------------------------
-- How terms are evaluated, kind by kind
-----------------------------------------------------------------------------------------

@[simp]
theorem eval_name (text : String)
    : (name text).eval world environment = .ofMember (.one (environment text)) :=
  rfl

@[simp]
theorem eval_literal (value : Literal)
    : (literal value).eval world environment = world.literal value :=
  rfl

@[simp]
theorem eval_member (subject : Term) (id : String)
    : (member subject id).eval world environment
      = world.memberOf (subject.eval world environment) id :=
  rfl

@[simp]
theorem eval_group (inner : Term)
    : (group inner).eval world environment = inner.eval world environment :=
  rfl

@[simp]
theorem eval_not (inner : Term)
    : (not inner).eval world environment = .truth !(inner.eval world environment).holds :=
  rfl

@[simp]
theorem eval_minus (inner : Term)
    : (minus inner).eval world environment = world.minus (inner.eval world environment) :=
  rfl

@[simp]
theorem eval_compare (left : Term) (symbol : String) (right : Term)
    : (compare left symbol right).eval world environment
      = .truth
          (world.relation symbol (left.eval world environment) (right.eval world environment)) :=
  rfl

@[simp]
theorem eval_and (parts : List Term)
    : (connect .and parts).eval world environment = .truth (allHold world environment parts) :=
  rfl

@[simp]
theorem eval_or (parts : List Term)
    : (connect .or parts).eval world environment = .truth (someHold world environment parts) :=
  rfl

@[simp]
theorem eval_call (function : String) (arguments : List Term)
    : (call function arguments).eval world environment
      = world.function function (evalAll world environment arguments) :=
  rfl

@[simp]
theorem eval_any (collection : Term) (binder : String) (body : Term)
    : (any collection binder body).eval world environment
      = .truth ((collection.eval world environment).items.any fun item =>
          (body.eval world (environment.bind binder item)).holds) :=
  rfl

@[simp]
theorem eval_isEmpty (collection : Term)
    : (isEmpty collection).eval world environment
      = .truth (collection.eval world environment).items.isEmpty :=
  rfl

@[simp]
theorem evalAll_nil : evalAll world environment [] = [] :=
  rfl

@[simp]
theorem evalAll_cons (term : Term) (terms : List Term)
    : evalAll world environment (term :: terms)
      = term.eval world environment :: evalAll world environment terms :=
  rfl

@[simp]
theorem allHold_nil : allHold world environment [] = true :=
  rfl

@[simp]
theorem allHold_cons (term : Term) (terms : List Term)
    : allHold world environment (term :: terms)
      = ((term.eval world environment).holds && allHold world environment terms) :=
  rfl

@[simp]
theorem someHold_cons (term : Term) (terms : List Term)
    : someHold world environment (term :: terms)
      = ((term.eval world environment).holds || someHold world environment terms) :=
  rfl

theorem chosenHolds_cons (item : world.Item) (arm : String × Term) (arms : List (String × Term))
    : chosenHolds world environment item (arm :: arms)
      = if world.hasType item arm.1 then armHolds world environment arm
        else chosenHolds world environment item arms :=
  rfl

@[simp]
theorem armHolds_mk (type : String) (body : Term)
    : armHolds world environment (type, body) = (body.eval world environment).holds :=
  rfl

/-- A choice is made for the item that its subject is, if it is one. -/
theorem eval_choose {subject : Term} {item : world.Item}
    (stands : subject.eval world environment = .ofItem item) (binder : String)
    (arms : List (String × Term))
    : (choose subject binder arms).eval world environment
      = .truth (chosenHolds world (environment.bind binder item) item arms) := by
  show (match (subject.eval world environment).item? with
    | some item => Value.truth (chosenHolds world (environment.bind binder item) item arms)
    | none => Value.truth false) = _
  rw [stands]
  rfl

end eval

end Term

end QueryTree
