import QueryTree.Code.Literal

/-! Terms of the language that predicates are generated in. A term is built up whole and written
once: `code` puts its parts next to each other and adds nothing of its own, so parentheses are terms
too.
-/

namespace QueryTree

/-- A term of generated code. -/
inductive Term where
  /-- A variable, or any text that a caller has written. -/
  | name (text : String)
  /-- A literal. -/
  | literal (value : Literal)
  /-- A member of a subject. -/
  | member (subject : Term) (id : String)
  /-- A term in parentheses. -/
  | group (inner : Term)
  /-- A negated truth value. -/
  | not (inner : Term)
  /-- A number with a minus in front. -/
  | minus (inner : Term)
  /-- Two terms compared by a symbol. -/
  | compare (left : Term) (symbol : String) (right : Term)
  /-- Terms joined by "and" or "or". -/
  | connect (combiner : Combiner) (parts : List Term)
  /-- A function applied to arguments. -/
  | call (function : String) (arguments : List Term)
  /-- Whether some element of a collection, bound to a variable, satisfies a predicate. -/
  | any (collection : Term) (binder : String) (body : Term)
  /-- Whether a collection has no element. -/
  | isEmpty (collection : Term)
  /-- The predicate of the first type a subject belongs to, the narrowed subject bound to a
  variable, or false.
  -/
  | choose (subject : Term) (binder : String) (arms : List (String × Term))

namespace Term

mutual

/-- The text of a term. -/
def code : Term → String
  | .name text => text
  | .literal value => value.code
  | .member subject id => subject.code ++ "." ++ id
  | .group inner => "(" ++ inner.code ++ ")"
  | .not inner => "!" ++ inner.code
  | .minus inner => "-" ++ inner.code
  | .compare left symbol right => left.code ++ " " ++ symbol ++ " " ++ right.code
  | .connect combiner parts => (" " ++ combiner.symbol ++ " ").intercalate (codes parts)
  | .call function arguments => function ++ "(" ++ ", ".intercalate (codes arguments) ++ ")"
  | .any collection binder body =>
      collection.code ++ ".any((" ++ binder ++ ") => " ++ body.code ++ ")"
  | .isEmpty collection => collection.code ++ ".empty()"
  | .choose subject binder arms =>
      subject.code ++ " match " ++ ", ".intercalate (armCodes binder arms) ++ ", else false"
termination_by structural term => term

/-- The texts of terms. -/
def codes : List Term → List String
  | [] => []
  | term :: terms => term.code :: codes terms
termination_by structural terms => terms

/-- The texts of the arms of a choice. -/
def armCodes (binder : String) : List (String × Term) → List String
  | [] => []
  | arm :: arms => armCode binder arm :: armCodes binder arms
termination_by structural arms => arms

/-- The text of an arm: its type, the variable, and its predicate. -/
def armCode (binder : String) : String × Term → String
  | (type, body) => type ++ " " ++ binder ++ " => " ++ body.code
termination_by structural arm => arm

end

/-- A string as a term. -/
def text (raw : String) : Term :=
  .literal (.text raw)

/-- Whether a value is there: the term negated twice. -/
def present (value : Term) : Term :=
  .not (.not value)

/-- The negation of a whole predicate, which is put in parentheses. -/
def negation (predicate : Term) : Term :=
  .not (.group predicate)

/-- The time at which the predicate is evaluated. -/
def queryTime : Term :=
  .call "Dates.queryTime" []

/-- The time a number of days after the evaluation of the predicate. -/
def daysFromQueryTime (days : Term) : Term :=
  .call "Dates.add" [text "day", days, queryTime]

end Term

end QueryTree
