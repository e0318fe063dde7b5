import QueryTree.Proofs.Json.Scanning
import QueryTree.Text

/-! The two layouts of a text differ in the blanks outside its strings and in nothing else. A text
is followed from its start, so that a quotation mark is told from an escaped one. Numbers need a
look at the scanner: it reads no number across a blank or a quotation mark.
-/

namespace QueryTree.Json

/-- Where in a text a character stands. -/
inductive Region where
  | outside
  | inside
  /-- Inside a string, right behind the backslash of an escape. -/
  | escaped
deriving DecidableEq

/-- Where the next character stands. -/
def Region.after (region : Region) (c : Char) : Region :=
  match region with
  | .outside => if c = '"' then .inside else .outside
  | .inside => if c = '"' then .outside else if c = '\\' then .escaped else .inside
  | .escaped => .inside

/-- The characters of a text without the blanks that stand outside its strings. -/
def unspaced : Region → List Char → List Char
  | _, [] => []
  | region, c :: rest =>
      if region = .outside ∧ Text.isBlank c then unspaced region rest
      else c :: unspaced (region.after c) rest

/-- A text without the blanks that stand outside its strings. -/
def withoutBlanks (text : String) : String :=
  String.ofList (unspaced .outside text.toList)

/-- Outside strings, `core` is what is left of a text, whatever comes after it. -/
def Shrinks (text core : String) : Prop :=
  ∀ rest, unspaced .outside (text.toList ++ rest) = core.toList ++ unspaced .outside rest

/-- Neither a blank nor a quotation mark. -/
def Solid (c : Char) : Prop :=
  Text.isBlank c = false ∧ c ≠ '"'

section pieces

variable {first firstCore second secondCore : String}

theorem Shrinks.append (left : Shrinks first firstCore) (right : Shrinks second secondCore)
    : Shrinks (first ++ second) (firstCore ++ secondCore) := by
  intro rest
  rw [String.toList_append, List.append_assoc, left, right, String.toList_append, List.append_assoc]

theorem unspaced_solid {text : List Char} (solid : ∀ c ∈ text, Solid c) (rest : List Char)
    : unspaced .outside (text ++ rest) = text ++ unspaced .outside rest := by
  induction text with
  | nil => rfl
  | cons c others ih =>
      obtain ⟨⟨shown, unquoted⟩, below⟩ := List.forall_mem_cons.mp solid
      simp [unspaced, Region.after, shown, unquoted, ih below]

theorem shrinks_solid {text : String} (solid : ∀ c ∈ text.toList, Solid c) : Shrinks text text :=
  unspaced_solid solid

/-- What stands before an item is lost. -/
theorem shrinks_lineBreak (level : Nat)
    : Shrinks (Layout.lineBreak .indented level) (Layout.lineBreak .compact level) := by
  intro rest
  have spaces (count : Nat)
      : unspaced .outside (List.replicate count ' ' ++ rest) = unspaced .outside rest := by
    induction count with
    | zero => rfl
    | succ count ih => exact ih
  simp only [Layout.lineBreak, String.toList_ofList, List.cons_append]
  exact spaces (2 * level)

theorem shrinks_colon : Shrinks (Layout.colon .indented) (Layout.colon .compact) := by
  intro rest
  rfl

end pieces

section strings

/-- A digit of an escape neither ends the string nor starts another escape. -/
theorem after_hexDigit : ∀ n < 16, Region.inside.after (hexDigit n) = .inside := by
  decide

/-- A written character leads back into its string, by the ways to write it. -/
theorem unspaced_escapeChar (c : Char) (rest : List Char)
    : unspaced .inside (escapeChar c ++ rest) = escapeChar c ++ unspaced .inside rest := by
  unfold escapeChar
  split
  iterate 7 rfl
  rename_i noQuote noSlash _ _ _ _ _
  split
  · rename_i control
    have small : c.toNat < 32 := control
    have upper := after_hexDigit (c.toNat / 16) (by omega)
    have lower := after_hexDigit (c.toNat % 16) (by omega)
    simp [unspaced, upper, lower, show Region.inside.after '\\' = .escaped from rfl,
      show Region.escaped.after 'u' = .inside from rfl,
      show Region.inside.after '0' = .inside from rfl]
  · have quote : c ≠ '"' := fun same => noQuote same
    have slash : c ≠ '\\' := fun same => noSlash same
    simp [unspaced, Region.after, quote, slash]

theorem unspaced_escaped (text rest : List Char)
    : unspaced .inside (text.flatMap escapeChar ++ rest)
      = text.flatMap escapeChar ++ unspaced .inside rest := by
  induction text with
  | nil => rfl
  | cons c others ih =>
      rw [List.flatMap_cons, List.append_assoc, unspaced_escapeChar, ih, List.append_assoc]

/-- A string keeps all its characters. -/
theorem shrinks_quoted (text : String) : Shrinks (quoted text) (quoted text) := by
  intro rest
  have opened (inner : List Char)
      : unspaced .outside ('"' :: inner) = '"' :: unspaced .inside inner :=
    rfl
  have closed (outer : List Char)
      : unspaced .inside ('"' :: outer) = '"' :: unspaced .outside outer :=
    rfl
  simp only [quoted, String.toList_ofList, List.cons_append, List.append_assoc, opened,
    unspaced_escaped, closed, List.nil_append]

end strings

section numbers

/-- No blank and no quotation mark stands in a number. -/
def Token.Solid : Token → Prop
  | .number (some value) => ∀ c ∈ value.written.toList, Json.Solid c
  | _ => True

/-- The same of a number that is not over yet. -/
def ScanMode.Solid : ScanMode → Prop
  | .number _ literal => ∀ c ∈ literal, Json.Solid c
  | .word token _ => token.Solid
  | _ => True

/-- The same of all numbers that were found so far. -/
structure ScanState.Solid (state : ScanState) : Prop where
  tokens : ∀ token ∈ state.tokens, token.Solid
  mode : state.mode.Solid

theorem solid_of_isDigit {c : Char} (digit : c.isDigit = true) : Solid c := by
  have range : 48 ≤ c.toNat ∧ c.toNat ≤ 57 := by
    simpa [Char.isDigit, UInt32.le_iff_toNat_le] using digit
  constructor
  · simp [Text.isBlank]
    omega
  · rintro rfl
    cases digit

theorem solid_integer (value : Int) : ∀ c ∈ (toString value).toList, Solid c := by
  have digits (n : Nat) : ∀ c ∈ n.repr.toList, Solid c := by
    intro c present
    rw [Nat.toList_repr] at present
    exact solid_of_isDigit (Nat.isDigit_of_mem_toDigits (by decide) (by decide) present)
  rw [Int.toString_eq_repr, Int.repr_eq_if]
  split
  · exact digits _
  · intro c present
    rcases List.mem_append.mp (String.toList_append ▸ present) with sign | digit
    · obtain rfl := List.mem_singleton.mp sign
      exact ⟨rfl, by decide⟩
    · exact digits _ c digit

/-- A number goes on with a solid character only. -/
theorem solid_of_next? {phase later : NumberPhase} {c : Char} (goes : phase.next? c = some later)
    : Solid c := by
  by_cases digit : c.isDigit = true
  · exact solid_of_isDigit digit
  · have each : ∀ c ∈ ['.', 'e', 'E', '+', '-'], Text.isBlank c = false ∧ c ≠ '"' := by
      simp [Text.isBlank]
    by_cases marked : c ∈ ['.', 'e', 'E', '+', '-']
    · exact each c marked
    · have zero : c ≠ '0' := fun same => digit (same ▸ rfl)
      simp only [List.mem_cons, List.not_mem_nil, or_false, not_or] at marked
      cases phase <;> simp [NumberPhase.next?, digit, marked, zero] at goes

theorem Token.solid_ofLiteral? {literal : List Char} (solid : ∀ c ∈ literal, Json.Solid c)
    : Token.Solid (.number (Number.ofLiteral? literal)) := by
  unfold Number.ofLiteral?
  dsimp only
  split
  · exact solid_integer _
  · split
    · trivial
    · simpa [Token.Solid, Number.written] using solid

theorem ScanState.solid_cons_number {tokens : List Token}
    (before : ∀ token ∈ tokens, token.Solid) {literal : List Char}
    (solid : ∀ c ∈ literal, Json.Solid c)
    : ∀ token ∈ .number (Number.ofLiteral? literal.reverse) :: tokens, token.Solid := by
  refine List.forall_mem_cons.mpr ⟨Token.solid_ofLiteral? ?_, before⟩
  intro c present
  exact solid c (List.mem_reverse.mp present)

theorem ScanState.solid_begin {tokens : List Token} (solid : ∀ token ∈ tokens, token.Solid)
    (c : Char)
    : (begin tokens c).Solid := by
  have plain {token : Token} (here : token.Solid) : (emit tokens token).Solid :=
    ⟨List.forall_mem_cons.mpr ⟨here, solid⟩, trivial⟩
  have opened {phase : NumberPhase} {first : Char} (whole : Json.Solid first)
      : ScanState.Solid ⟨tokens, .number phase [first]⟩ :=
    ⟨solid, List.forall_mem_cons.mpr ⟨whole, nofun⟩⟩
  unfold begin
  split
  -- Six marks, then the starts of a string and of three words, then those of numbers
  iterate 6 exact plain trivial
  iterate 4 exact ⟨solid, trivial⟩
  · exact opened ⟨rfl, by decide⟩
  · exact opened ⟨rfl, by decide⟩
  · split
    · exact ⟨solid, trivial⟩
    · split
      · rename_i digit
        exact opened (solid_of_isDigit digit)
      · exact ⟨List.forall_mem_cons.mpr ⟨trivial, solid⟩, trivial⟩

theorem ScanState.Solid.step {state : ScanState} (solid : state.Solid) (c : Char)
    : (state.step c).Solid := by
  obtain ⟨tokens, mode⟩ := state
  obtain ⟨before, here⟩ := solid
  have failed : (fail tokens).Solid := ⟨List.forall_mem_cons.mpr ⟨trivial, before⟩, trivial⟩
  unfold ScanState.step
  dsimp only
  cases mode with
  | between => exact solid_begin before c
  | number phase literal =>
      dsimp only
      split
      · rename_i goes
        exact ⟨before, List.forall_mem_cons.mpr ⟨solid_of_next? goes, here⟩⟩
      · split
        · exact solid_begin (solid_cons_number before here) c
        · exact failed
  | word token due =>
      cases due with
      | nil => exact failed
      | cons d due =>
          dsimp only
          split
          · exact failed
          · split
            · exact ⟨List.forall_mem_cons.mpr ⟨here, before⟩, trivial⟩
            · exact ⟨before, here⟩
  -- Inside a string nothing is found but its end
  | text buffer =>
      dsimp only
      split
      · exact ⟨List.forall_mem_cons.mpr ⟨trivial, before⟩, trivial⟩
      · split
        · exact ⟨before, trivial⟩
        · split
          · exact failed
          · exact ⟨before, trivial⟩
  | escape buffer =>
      dsimp only
      split
      · exact ⟨before, trivial⟩
      · split
        · exact ⟨before, trivial⟩
        · exact failed
  | unit buffer due value =>
      dsimp only
      split
      · split <;> exact ⟨before, trivial⟩
      · exact failed
  | broken => exact ⟨before, here⟩

theorem ScanState.Solid.foldl {state : ScanState} (solid : state.Solid) (text : List Char)
    : (text.foldl ScanState.step state).Solid := by
  induction text generalizing state with
  | nil => exact solid
  | cons c rest ih => exact ih (solid.step c)

theorem ScanState.Solid.finish {state : ScanState} (solid : state.Solid)
    : ∀ token ∈ state.finish, token.Solid := by
  obtain ⟨tokens, mode⟩ := state
  obtain ⟨before, here⟩ := solid
  have reversed {tokens : List Token} (each : ∀ token ∈ tokens, token.Solid)
      : ∀ token ∈ tokens.reverse, token.Solid :=
    fun token present => each token (List.mem_reverse.mp present)
  have cut : ∀ token ∈ Token.fault :: tokens, token.Solid :=
    List.forall_mem_cons.mpr ⟨trivial, before⟩
  unfold ScanState.finish
  cases mode with
  | between | broken => exact reversed before
  | number phase literal =>
      dsimp only
      split
      · exact reversed (solid_cons_number before here)
      · exact reversed cut
  | word | text | escape | unit => exact reversed cut

/-- Every number of a text is solid. -/
theorem solid_tokens (text : List Char) : ∀ token ∈ tokens text, token.Solid := by
  have start : ScanState.start.Solid := ⟨nofun, trivial⟩
  exact (start.foldl text).finish

/-- What is read as the number that it is written as is solid. -/
theorem solid_of_scans {value : Number}
    (legible : Scans value.written.toList [.number (some value)])
    : ∀ c ∈ value.written.toList, Solid c := by
  have whole := legible [] [] .done
  rw [List.append_nil] at whole
  have found : tokens value.written.toList = [.number (some value)] := whole
  exact solid_tokens value.written.toList (.number (some value)) (found ▸ List.mem_singleton_self _)

end numbers

section values

theorem shrinks_comma : Shrinks "," "," :=
  fun _ => rfl

theorem shrinks_items {level : Nat} {items : List Json}
    (each : ∀ item ∈ items, Shrinks (item.writeAt .indented level) (item.writeAt .compact level))
    : Shrinks (writeItems .indented level items) (writeItems .compact level items) := by
  induction items with
  | nil => exact fun _ => rfl
  | cons item rest ih =>
      have after := ih fun other present => each other (List.mem_cons_of_mem _ present)
      rw [writeItems, writeItems]
      exact ((shrinks_comma.append (shrinks_lineBreak level)).append
        (each item List.mem_cons_self)).append after

theorem shrinks_field {level : Nat} {field : String × Json}
    (value : Shrinks (field.2.writeAt .indented level) (field.2.writeAt .compact level))
    : Shrinks (writeField .indented level field) (writeField .compact level field) := by
  rw [writeField, writeField]
  exact ((shrinks_quoted field.1).append shrinks_colon).append value

theorem shrinks_fields {level : Nat} {fields : List (String × Json)}
    (each
      : ∀ field ∈ fields,
          Shrinks (field.2.writeAt .indented level) (field.2.writeAt .compact level))
    : Shrinks (writeFields .indented level fields) (writeFields .compact level fields) := by
  induction fields with
  | nil => exact fun _ => rfl
  | cons field rest ih =>
      have after := ih fun other present => each other (List.mem_cons_of_mem _ present)
      rw [writeFields, writeFields]
      exact ((shrinks_comma.append (shrinks_lineBreak level)).append
        (shrinks_field (each field List.mem_cons_self))).append after

/-- What stands between two brackets stands on lines of its own, if there is anything. -/
theorem shrinks_between {opening closing inner innerCore others othersCore : String} {level : Nat}
    (opens : Shrinks opening opening) (first : Shrinks inner innerCore)
    (rest : Shrinks others othersCore) (closes : Shrinks closing closing)
    : Shrinks
        (opening ++ Layout.lineBreak .indented (level + 1) ++ inner ++ others
          ++ Layout.lineBreak .indented level ++ closing)
        (opening ++ Layout.lineBreak .compact (level + 1) ++ innerCore ++ othersCore
          ++ Layout.lineBreak .compact level ++ closing) :=
  ((((opens.append (shrinks_lineBreak (level + 1))).append first).append rest).append
    (shrinks_lineBreak level)).append closes

/-- The indented text of a canonical value loses its blanks to become the compact one, by induction
on the value.
-/
theorem shrinks_writeAt {value : Json} (canonical : value.Canonical) (level : Nat)
    : Shrinks (value.writeAt .indented level) (value.writeAt .compact level) := by
  induction value generalizing level with
  | null =>
      rw [writeAt, writeAt]
      exact fun _ => rfl
  | bool value =>
      cases value <;>
        · rw [writeAt, writeAt]
          exact fun _ => rfl
  | number value =>
      cases canonical with
      | number legible =>
          rw [writeAt, writeAt]
          exact shrinks_solid (solid_of_scans legible)
  | string text =>
      rw [writeAt, writeAt]
      exact shrinks_quoted text
  | array items ih =>
      cases canonical with
      | array each =>
          cases items with
          | nil =>
              rw [writeAt, writeAt]
              exact fun _ => rfl
          | cons item rest =>
              have below other present :=
                ih other present (each other present) (level + 1)
              rw [writeAt, writeAt]
              exact shrinks_between (fun _ => rfl) (below item List.mem_cons_self)
                (shrinks_items fun other present => below other (List.mem_cons_of_mem _ present))
                (fun _ => rfl)
  | object fields ih =>
      cases canonical with
      | object each =>
          cases fields with
          | nil =>
              rw [writeAt, writeAt]
              exact fun _ => rfl
          | cons field rest =>
              have below other present :=
                ih other present (each other present) (level + 1)
              rw [writeAt, writeAt]
              exact shrinks_between (fun _ => rfl) (shrinks_field (below field List.mem_cons_self))
                (shrinks_fields fun other present => below other (List.mem_cons_of_mem _ present))
                (fun _ => rfl)

/-- Without the blanks outside its strings, the indented text of a canonical value is the compact
one.
-/
theorem withoutBlanks_write {value : Json} (canonical : value.Canonical)
    : withoutBlanks (value.write .indented) = value.compact := by
  have shrinks := shrinks_writeAt canonical 0 []
  rw [List.append_nil, unspaced, List.append_nil] at shrinks
  rw [withoutBlanks, write, shrinks, String.ofList_toList]
  rfl

/-- A blank behind an escaped quotation mark is inside the string. -/
example : withoutBlanks "[ \"a\\\" b\" ]" = "[\"a\\\" b\"]" := rfl

end values

end QueryTree.Json
