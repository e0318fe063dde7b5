import QueryTree.Code.Term

/-! How terms are written, kind by kind. Proofs about code rewrite with these equations. -/

namespace QueryTree.Term

@[simp]
theorem code_name (text : String) : (name text).code = text :=
  rfl

@[simp]
theorem code_literal (value : Literal) : (literal value).code = value.code :=
  rfl

@[simp]
theorem code_member (subject : Term) (id : String)
    : (member subject id).code = subject.code ++ "." ++ id :=
  rfl

@[simp]
theorem code_group (inner : Term) : (group inner).code = "(" ++ inner.code ++ ")" :=
  rfl

@[simp]
theorem code_not (inner : Term) : (not inner).code = "!" ++ inner.code :=
  rfl

@[simp]
theorem code_minus (inner : Term) : (minus inner).code = "-" ++ inner.code :=
  rfl

@[simp]
theorem code_compare (left : Term) (symbol : String) (right : Term)
    : (compare left symbol right).code = left.code ++ " " ++ symbol ++ " " ++ right.code :=
  rfl

@[simp]
theorem code_connect (combiner : Combiner) (parts : List Term)
    : (connect combiner parts).code = (" " ++ combiner.symbol ++ " ").intercalate (codes parts) :=
  rfl

@[simp]
theorem code_call (function : String) (arguments : List Term)
    : (call function arguments).code
      = function ++ "(" ++ ", ".intercalate (codes arguments) ++ ")" :=
  rfl

@[simp]
theorem code_any (collection : Term) (binder : String) (body : Term)
    : (any collection binder body).code
      = collection.code ++ ".any((" ++ binder ++ ") => " ++ body.code ++ ")" :=
  rfl

@[simp]
theorem code_isEmpty (collection : Term)
    : (isEmpty collection).code = collection.code ++ ".empty()" :=
  rfl

@[simp]
theorem code_choose (subject : Term) (binder : String) (arms : List (String × Term))
    : (choose subject binder arms).code
      = subject.code ++ " match " ++ ", ".intercalate (armCodes binder arms) ++ ", else false" :=
  rfl

@[simp]
theorem codes_nil : codes [] = [] :=
  rfl

@[simp]
theorem codes_cons (term : Term) (terms : List Term)
    : codes (term :: terms) = term.code :: codes terms :=
  rfl

@[simp]
theorem armCodes_cons (binder : String) (arm : String × Term) (arms : List (String × Term))
    : armCodes binder (arm :: arms) = armCode binder arm :: armCodes binder arms :=
  rfl

@[simp]
theorem armCode_mk (binder type : String) (body : Term)
    : armCode binder (type, body) = type ++ " " ++ binder ++ " => " ++ body.code :=
  rfl

theorem codes_eq_map (terms : List Term) : codes terms = terms.map code := by
  induction terms with
  | nil => rfl
  | cons term terms ih => rw [codes_cons, ih, List.map_cons]

theorem armCodes_eq_map (binder : String) (arms : List (String × Term))
    : armCodes binder arms = arms.map (armCode binder) := by
  induction arms with
  | nil => rfl
  | cons arm arms ih => rw [armCodes_cons, ih, List.map_cons]

@[simp]
theorem code_queryTime : queryTime.code = "Dates.queryTime()" :=
  rfl

@[simp]
theorem code_daysFromQueryTime (days : Term)
    : (daysFromQueryTime days).code
      = "Dates.add(\"day\", " ++ days.code ++ ", Dates.queryTime())" := by
  have day : (text "day").code = "\"day\"" := rfl
  simp [daysFromQueryTime, day, ← String.toList_inj]

end QueryTree.Term
