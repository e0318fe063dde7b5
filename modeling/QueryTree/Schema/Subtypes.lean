import QueryTree.Schema.Basic

/-! The subtypes of a type: all types that declare it as a supertype, directly or through others.
They are found breadth first, and the types found from one parent come in order of their names. The
type itself is never among them, even where declarations form a circle.
-/

namespace QueryTree.Schema

/-- Whether the type called `name` declares `parent` as a supertype. -/
def isChild (schema : Schema) (parent name : String) : Bool :=
  match schema.get? name with
  | some type => type.supertypes.contains parent
  | none => false

/-- The names of the schema that are not among `visited`, in order. -/
def unvisited (schema : Schema) (visited : List String) : List String :=
  schema.names.filter fun name => !visited.contains name

/-- The types not yet visited that declare `parent` as a supertype, in order. -/
def newChildren (schema : Schema) (visited : List String) (parent : String) : List String :=
  (schema.unvisited visited).filter (schema.isChild parent)

/-- Visiting the new children of a type leaves that many fewer names, because they are just the
unvisited names with one more property.
-/
theorem unvisited_newChildren (schema : Schema) (visited : List String) (parent : String)
    : (schema.unvisited (visited ++ schema.newChildren visited parent)).length
        + (schema.newChildren visited parent).length
      = (schema.unvisited visited).length := by
  have rest : schema.unvisited (visited ++ schema.newChildren visited parent)
      = (schema.unvisited visited).filter fun name => !schema.isChild parent name := by
    simp only [unvisited, newChildren, List.filter_filter]
    apply List.filter_congr
    intro name member
    by_cases hv : name ∈ visited <;> by_cases hc : schema.isChild parent name = true <;>
      simp [hv, hc, member]
  rw [rest, newChildren, Nat.add_comm, ← List.length_append]
  exact List.Perm.length_eq (List.filter_append_perm ..)

/-- The types found from the names in `queue`, one after the other. -/
def discover (schema : Schema) (visited : List String) : List String → List String
  | [] => []
  | parent :: queue =>
      let children := schema.newChildren visited parent
      children ++ discover schema (visited ++ children) (queue ++ children)
termination_by queue => (schema.unvisited visited).length + queue.length
decreasing_by
  have h := unvisited_newChildren schema visited parent
  simp only [List.length_append, List.length_cons]
  omega

/-- All subtypes of the type called `name`. -/
def subtypes (schema : Schema) (name : String) : List String :=
  discover schema [name] [name]

end QueryTree.Schema
