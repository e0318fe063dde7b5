import QueryTree.Proofs.Code.Literal
import QueryTree.Proofs.Code.Term

/-! Code that is lexically well formed. It is read from left to right, in strings by escapes; every
string is closed, and every parenthesis outside of strings is closed after it was opened. What a
string holds does not matter, so terms are well formed if the names in them are.
-/

namespace QueryTree

/-- Where a reader of code stands, with how many parentheses open: outside of strings, in a string,
or behind a backslash in a string.
-/
inductive LexState where
  | code (depth : Nat)
  | string (depth : Nat)
  | escape (depth : Nat)
deriving DecidableEq

namespace LexState

/-- The state behind one more character. A parenthesis that closes nothing cannot be read. -/
def next : LexState → Char → Option LexState
  | .code depth, '"' => some (.string depth)
  | .code depth, '(' => some (.code (depth + 1))
  | .code 0, ')' => none
  | .code (depth + 1), ')' => some (.code depth)
  | .code depth, _ => some (.code depth)
  | .string depth, '"' => some (.code depth)
  | .string depth, '\\' => some (.escape depth)
  | .string depth, _ => some (.string depth)
  | .escape depth, _ => some (.string depth)

def read (state : LexState) (text : List Char) : Option LexState :=
  text.foldlM next state

end LexState

/-- Reading starts and ends outside of strings, without an open parenthesis. -/
def LexicallyWellFormed (code : String) : Prop :=
  LexState.read (.code 0) code.toList = some (.code 0)

/-- A quotation mark, a backslash or a parenthesis. -/
def isLexical (c : Char) : Bool :=
  c = '"' || c = '\\' || c = '(' || c = ')'

/-- A text without quotation marks, backslashes and parentheses. -/
def Quiet (text : String) : Prop :=
  ∀ c ∈ text.toList, ¬isLexical c

instance (text : String) : Decidable (Quiet text) :=
  decidable_of_iff (text.toList.any isLexical = false) List.any_eq_false

namespace LexState

theorem read_append (state : LexState) (first second : List Char)
    : state.read (first ++ second) = (state.read first).bind fun after => after.read second :=
  List.foldlM_append ..

theorem next_of_quiet {c : Char} (quiet : ¬isLexical c) (depth : Nat)
    : next (.code depth) c = some (.code depth) := by
  unfold next
  split <;> simp_all [isLexical]

theorem read_of_quiet {text : List Char} (quiet : ∀ c ∈ text, ¬isLexical c) (depth : Nat)
    : read (.code depth) text = some (.code depth) := by
  induction text with
  | nil => rfl
  | cons c rest ih =>
      obtain ⟨here, after⟩ := List.forall_mem_cons.mp quiet
      unfold read at ih ⊢
      rw [List.foldlM_cons, next_of_quiet here]
      exact ih after

/-- The body of a whole string is read without leaving the string, by its escapes. -/
theorem read_of_isClosed {body : List Char} (whole : Text.Quoted.isClosed body = true)
    (depth : Nat)
    : read (.string depth) body = some (.string depth) := by
  fun_induction Text.Quoted.isClosed body with
  | case1 => rfl
  | case2 => cases whole
  | case3 _ rest ih => exact ih whole
  | case4 c rest last paired ih =>
      simp only [Bool.and_eq_true, decide_eq_true_eq] at whole
      obtain ⟨⟨mark, _⟩, after⟩ := whole
      have bare : c ≠ '\\' := by
        intro backslash
        cases rest with
        | nil => exact last backslash rfl
        | cons other rest => exact paired other rest backslash rfl
      have stays : next (.string depth) c = some (.string depth) := by
        simp only [next]
      unfold read at ih ⊢
      rw [List.foldlM_cons, stays]
      exact ih after

end LexState

/-- Reading a text takes away so many open parentheses and leaves so many, whatever else is open. -/
def Shifts (text : String) (before after : Nat) : Prop :=
  ∀ depth, LexState.read (.code (depth + before)) text.toList = some (.code (depth + after))

/-- Reading a text ends as it started. -/
abbrev Balanced (text : String) : Prop :=
  Shifts text 0 0

section balance

variable {text first second : String} {before middle after : Nat}

theorem Shifts.append (left : Shifts first before middle) (right : Shifts second middle after)
    : Shifts (first ++ second) before after := by
  intro depth
  rw [String.toList_append, LexState.read_append, left depth]
  exact right depth

theorem Balanced.shifts (balanced : Balanced text) (count : Nat) : Shifts text count count := by
  intro depth
  exact balanced (depth + count)

theorem Quiet.balanced (quiet : Quiet text) : Balanced text :=
  LexState.read_of_quiet quiet

/-- What is balanced may stand between anything that opens and what closes it. -/
theorem balanced_between {inner : String} (opens : Shifts first 0 after) (balanced : Balanced inner)
    (closes : Shifts second after 0)
    : Balanced (first ++ inner ++ second) :=
  (opens.append (balanced.shifts after)).append closes

theorem Balanced.intercalate (separator : Balanced text) {texts : List String}
    (each : ∀ part ∈ texts, Balanced part)
    : Balanced (text.intercalate texts) := by
  induction texts with
  | nil => exact fun _ => rfl
  | cons part rest ih =>
      obtain ⟨here, others⟩ := List.forall_mem_cons.mp each
      cases rest with
      | nil => simpa using here
      | cons next rest =>
          rw [String.intercalate_cons_cons]
          exact (here.append separator).append (ih others)

theorem opens_parenthesis : Shifts "(" 0 1 := by
  intro depth
  rfl

theorem closes_parenthesis : Shifts ")" 1 0 := by
  intro depth
  rfl

/-- A whole string between its quotation marks is balanced. -/
theorem balanced_of_isClosed {body : List Char} (whole : Text.Quoted.isClosed body = true)
    : Balanced (String.ofList ('"' :: (body ++ ['"']))) := by
  intro depth
  have inside := LexState.read_of_isClosed whole depth
  rw [String.toList_ofList, ← List.singleton_append, LexState.read_append]
  show LexState.read (.string depth) (body ++ ['"']) = some (.code depth)
  rw [LexState.read_append, inside]
  rfl

end balance

/-- A character of numbers is none that a reader of code looks at. -/
theorem Literal.quiet_of_isNumberChar {text : String}
    (only : ∀ c ∈ text.toList, Literal.isNumberChar c = true)
    : Quiet text := by
  intro c present
  have number := only c present
  intro lexical
  simp only [isLexical, Bool.or_eq_true, decide_eq_true_eq] at lexical
  rcases lexical with ((rfl | rfl) | rfl) | rfl <;> cases number

/-- The code of a literal that ends by itself is balanced, by its forms. -/
theorem Literal.Closed.balanced {code : String} (closed : Literal.Closed code)
    : Balanced code := by
  cases closed with
  | string whole => exact balanced_of_isClosed whole
  | time whole =>
      have opens : Shifts "Dates.parseIso(" 0 1 := fun _ => rfl
      exact balanced_between opens (balanced_of_isClosed whole) closes_parenthesis
  | number _ only => exact (Literal.quiet_of_isNumberChar only).balanced
  | truth value =>
      apply Quiet.balanced
      cases value <;> decide

namespace Term

/-- The names, symbols and functions in a term are quiet, and its literals end by themselves. -/
inductive QuietNames : Term → Prop
  | name {text} (quiet : Quiet text) : QuietNames (.name text)
  | literal {value} (closed : Literal.Closed value.code) : QuietNames (.literal value)
  | member {subject id} (below : QuietNames subject) (quiet : Quiet id)
    : QuietNames (.member subject id)
  | group {inner} (below : QuietNames inner) : QuietNames (.group inner)
  | not {inner} (below : QuietNames inner) : QuietNames (.not inner)
  | minus {inner} (below : QuietNames inner) : QuietNames (.minus inner)
  | compare {left symbol right} (quiet : Quiet symbol) (first : QuietNames left)
    (second : QuietNames right)
    : QuietNames (.compare left symbol right)
  | connect {combiner parts} (each : ∀ part ∈ parts, QuietNames part)
    : QuietNames (.connect combiner parts)
  | call {function arguments} (quiet : Quiet function)
    (each : ∀ argument ∈ arguments, QuietNames argument)
    : QuietNames (.call function arguments)
  | any {collection binder body} (quiet : Quiet binder) (below : QuietNames collection)
    (holds : QuietNames body)
    : QuietNames (.any collection binder body)
  | isEmpty {collection} (below : QuietNames collection) : QuietNames (.isEmpty collection)
  | choose {subject binder arms} (quiet : Quiet binder) (below : QuietNames subject)
    (types : ∀ arm ∈ arms, Quiet arm.1) (each : ∀ arm ∈ arms, QuietNames arm.2)
    : QuietNames (.choose subject binder arms)

/-- The code of a term is balanced, by what the term is put together from. -/
theorem QuietNames.balanced {term : Term} (quiet : term.QuietNames) : Balanced term.code := by
  -- Whatever stands between the parts of a term has no parentheses but those of its own.
  have fixed {text : String} (quiet : Quiet text) : Balanced text := quiet.balanced
  have space : Balanced " " := fixed (by decide)
  have comma : Balanced ", " := fixed (by decide)
  induction quiet with
  | name quiet => exact quiet.balanced
  | literal closed => exact closed.balanced
  | member _ quiet below =>
      rw [code_member]
      exact (below.append (fixed (by decide))).append quiet.balanced
  | group _ below =>
      rw [code_group]
      exact balanced_between opens_parenthesis below closes_parenthesis
  | not _ below =>
      rw [code_not]
      exact (fixed (by decide)).append below
  | minus _ below =>
      rw [code_minus]
      exact (fixed (by decide)).append below
  | compare quiet _ _ first second =>
      rw [code_compare]
      exact (((first.append space).append quiet.balanced).append space).append second
  | @connect combiner parts _ each =>
      rw [code_connect, codes_eq_map]
      have separator : Balanced (" " ++ combiner.symbol ++ " ") := by
        apply fixed
        cases combiner <;> decide
      exact separator.intercalate (List.forall_mem_map.mpr each)
  | call quiet _ each =>
      rw [code_call, codes_eq_map]
      have listed := comma.intercalate (List.forall_mem_map.mpr each)
      exact balanced_between (quiet.balanced.append opens_parenthesis) listed closes_parenthesis
  | any quiet _ _ below holds =>
      rw [code_any]
      have opens : Shifts ".any((" 0 2 := fun _ => rfl
      have bound : Shifts ") => " 2 1 := fun _ => rfl
      have head := ((below.append opens).append (quiet.balanced.shifts 2)).append bound
      exact balanced_between head holds closes_parenthesis
  | isEmpty _ below =>
      rw [code_isEmpty]
      exact below.append fun _ => rfl
  | @choose subject binder arms quiet _ types _ below each =>
      rw [code_choose, armCodes_eq_map]
      have armed : ∀ arm ∈ arms, Balanced (armCode binder arm) := by
        rintro ⟨type, body⟩ present
        rw [armCode_mk]
        have head := ((types _ present).balanced.append space).append quiet.balanced
        exact (head.append (fixed (by decide))).append (each _ present)
      have listed := comma.intercalate (List.forall_mem_map.mpr armed)
      exact ((below.append (fixed (by decide))).append listed).append (fixed (by decide))

end Term

end QueryTree
