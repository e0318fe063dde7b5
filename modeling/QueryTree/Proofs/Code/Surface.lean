import QueryTree.Code.Term
import QueryTree.Text

/-! The grammar of generated code, as a part of all terms. A term binds as tightly as the place it
stands in asks for, so its own parentheses are all that is needed to read it back; its variables are
identifiers; and it has a few symbols and functions only.
-/

namespace QueryTree.Term

def symbols : List String :=
  ["==", "!=", ">", ">=", "<=", "<"]

/-- The functions, with how many arguments they take. -/
def functions : List (String × Nat) :=
  [ ("Strings.contains", 2), ("Strings.startsWith", 2), ("Strings.endsWith", 2),
    ("Dates.queryTime", 0), ("Dates.add", 3) ]

/-- How loosely the terms joined by a combiner may bind. -/
def looseness : Combiner → Nat
  | .and => 3
  | .or => 4

/-- The terms of the language that bind no more loosely than a place allows: at 0 the terms that
members can be read from, at 1 signs too, at 2 comparisons, at 3 conjunctions, at 4 disjunctions,
and at 5 choices.
-/
inductive Surface : Nat → Term → Prop
  | name {level text} (identifier : Text.isIdentifier text = true) : Surface level (.name text)
  | literal {level value} : Surface level (.literal value)
  | member {level subject id} (read : Surface 0 subject) : Surface level (.member subject id)
  | group {level inner} (whole : Surface 5 inner) : Surface level (.group inner)
  | not {level inner} (allowed : 1 ≤ level) (signed : Surface 1 inner) : Surface level (.not inner)
  | minus {level inner} (allowed : 1 ≤ level) (signed : Surface 1 inner)
    : Surface level (.minus inner)
  | compare {level left symbol right} (allowed : 2 ≤ level) (known : symbol ∈ symbols)
    (first : Surface 1 left) (second : Surface 1 right)
    : Surface level (.compare left symbol right)
  | connect {level combiner parts} (allowed : looseness combiner ≤ level) (nonempty : parts ≠ [])
    (each : ∀ part ∈ parts, Surface (looseness combiner) part)
    : Surface level (.connect combiner parts)
  | call {level function arguments} (known : (function, arguments.length) ∈ functions)
    (each : ∀ argument ∈ arguments, Surface 4 argument)
    : Surface level (.call function arguments)
  | any {level collection binder body} (read : Surface 0 collection)
    (identifier : Text.isIdentifier binder = true) (holds : Surface 4 body)
    : Surface level (.any collection binder body)
  | isEmpty {level collection} (read : Surface 0 collection) : Surface level (.isEmpty collection)
  | choose {level subject binder arms} (allowed : 5 ≤ level) (read : Surface 0 subject)
    (identifier : Text.isIdentifier binder = true) (nonempty : arms ≠ [])
    (each : ∀ arm ∈ arms, Surface 4 arm.2)
    : Surface level (.choose subject binder arms)

/-- A term may stand where looser terms may stand, construct by construct. -/
theorem Surface.mono {level other : Nat} (more : level ≤ other) {term : Term}
    (surface : Surface level term)
    : Surface other term := by
  cases surface with
  | name identifier => exact .name identifier
  | literal => exact .literal
  | member read => exact .member read
  | group whole => exact .group whole
  | not allowed signed => exact .not (Nat.le_trans allowed more) signed
  | minus allowed signed => exact .minus (Nat.le_trans allowed more) signed
  | compare allowed known first second =>
      exact .compare (Nat.le_trans allowed more) known first second
  | connect allowed nonempty each => exact .connect (Nat.le_trans allowed more) nonempty each
  | call known each => exact .call known each
  | any read identifier holds => exact .any read identifier holds
  | isEmpty read => exact .isEmpty read
  | choose allowed read identifier nonempty each =>
      exact .choose (Nat.le_trans allowed more) read identifier nonempty each

/-- The test for a value is a term of the language. -/
theorem Surface.present {level : Nat} (allowed : 1 ≤ level) {value : Term}
    (surface : Surface 1 value)
    : Surface level (Term.present value) :=
  .not allowed (.not (Nat.le_refl 1) surface)

theorem surface_queryTime {level : Nat} : Surface level queryTime :=
  .call (by decide) (by simp)

theorem Surface.daysFromQueryTime {level : Nat} {days : Term} (surface : Surface 4 days)
    : Surface level (Term.daysFromQueryTime days) := by
  refine .call (by simp [functions]) fun argument member => ?_
  simp only [List.mem_cons, List.not_mem_nil, or_false] at member
  rcases member with rfl | rfl | rfl
  · exact .literal
  · exact surface
  · exact surface_queryTime

theorem Surface.and {level : Nat} (allowed : 3 ≤ level) {first second : Term}
    (left : Surface 3 first) (right : Surface 3 second)
    : Surface level (.connect .and [first, second]) := by
  refine .connect allowed (by simp) fun part member => ?_
  simp only [List.mem_cons, List.not_mem_nil, or_false] at member
  rcases member with rfl | rfl
  · exact left
  · exact right

end QueryTree.Term
