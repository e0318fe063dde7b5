import QueryTree.Json.Writer
import QueryTree.Proofs.Json.Tokens

/-! Scanning what was written. The text of a value is scanned to the tokens of the value, in either
layout, as long as its numbers are written the way they are read.
-/

namespace QueryTree.Json

/-- The tokens of a text that is read on after some tokens, last first. -/
def tokensAfter (before : List Token) (text : List Char) : List Token :=
  (text.foldl ScanState.step ⟨before, .between⟩).finish

/-- A text that cannot go on with a number: it is over, or starts with a comma, a closing bracket or
a line break.
-/
inductive Marked : List Char → Prop
  | done : Marked []
  | mark {c rest} (mark : c ∈ [',', ']', '\x7d', '\n']) : Marked (c :: rest)

/-- A text is scanned to tokens, whatever was scanned before and whatever comes after. -/
def Scans (text : List Char) (tokens : List Token) : Prop :=
  ∀ before tail, Marked tail →
    tokensAfter before (text ++ tail) = tokensAfter (tokens.reverse ++ before) tail

/-- A value that is read as it is written: its numbers are, and no object in it has two fields of
one name.
-/
inductive Canonical : Json → Prop
  | null : Canonical .null
  | bool {value} : Canonical (.bool value)
  | number {value : Number} (legible : Scans value.written.toList [.number (some value)])
    : Canonical (.number value)
  | string {text} : Canonical (.string text)
  | array {items} (each : ∀ item ∈ items, Canonical item) : Canonical (.array items)
  | object {fields : List (String × Json)} (each : ∀ field ∈ fields, Canonical field.2)
    (distinct : (fields.map Prod.fst).Nodup)
    : Canonical (.object fields)

section strings

theorem hexValue?_hexDigit : ∀ n < 16, hexValue? (hexDigit n) = some n := by
  decide

/-- A control character is written as an escape of two zeros and two digits. -/
theorem foldl_unit {c : Char} (control : c < ' ') (before : List Token) (chars : List Char)
    : ['\\', 'u', '0', '0', hexDigit (c.toNat / 16), hexDigit (c.toNat % 16)].foldl
        ScanState.step ⟨before, .text ⟨chars, none, true⟩⟩
      = ⟨before, .text ⟨c :: chars, none, true⟩⟩ := by
  have small : c.toNat < 32 := control
  have upper := hexValue?_hexDigit (c.toNat / 16) (by omega)
  have lower := hexValue?_hexDigit (c.toNat % 16) (by omega)
  have zero : hexValue? '0' = some 0 := rfl
  have whole : c.toNat / 16 * 16 + c.toNat % 16 = c.toNat := Nat.div_add_mod' ..
  -- Such a character is no half of a surrogate pair, so it is read by itself.
  have noHigh : TextBuffer.isHigh c.toNat = false := by
    simp only [TextBuffer.isHigh, Bool.and_eq_false_iff, decide_eq_false_iff_not]
    omega
  have noLow : TextBuffer.isLow c.toNat = false := by
    simp only [TextBuffer.isLow, Bool.and_eq_false_iff, decide_eq_false_iff_not]
    omega
  simp [ScanState.step, upper, lower, zero, whole, TextBuffer.pushUnit, noHigh, noLow,
    TextBuffer.pushChar]

/-- A character inside a string is read as it is written, by the ways to write it. -/
theorem foldl_escapeChar (c : Char) (before : List Token) (chars : List Char)
    : (escapeChar c).foldl ScanState.step ⟨before, .text ⟨chars, none, true⟩⟩
      = ⟨before, .text ⟨c :: chars, none, true⟩⟩ := by
  unfold escapeChar
  split
  -- The seven escapes with a letter or sign of their own
  iterate 7 rfl
  rename_i noQuote noSlash _ _ _ _ _
  split
  · rename_i control
    exact foldl_unit control before chars
  · rename_i printable
    have quote : c ≠ '"' := fun same => noQuote same
    have slash : c ≠ '\\' := fun same => noSlash same
    simp [ScanState.step, quote, slash, printable, TextBuffer.pushChar]

/-- The characters inside a string are read as they are written, by induction on the characters. -/
theorem foldl_escaped (text : List Char) (before : List Token) (chars : List Char)
    : (text.flatMap escapeChar).foldl ScanState.step ⟨before, .text ⟨chars, none, true⟩⟩
      = ⟨before, .text ⟨text.reverse ++ chars, none, true⟩⟩ := by
  induction text generalizing chars with
  | nil => rfl
  | cons c rest ih =>
      rw [List.flatMap_cons, List.foldl_append, foldl_escapeChar, ih]
      simp

/-- A string between quotation marks is scanned to one token, whatever comes after it. -/
theorem tokensAfter_quoted (text : String) (before : List Token) (tail : List Char)
    : tokensAfter before ((quoted text).toList ++ tail)
      = tokensAfter (.string (some text) :: before) tail := by
  have opened : ScanState.step ⟨before, .between⟩ '"' = ⟨before, .text ⟨[], none, true⟩⟩ := rfl
  have closed
      : ScanState.step ⟨before, .text ⟨text.toList.reverse ++ [], none, true⟩⟩ '"'
        = ⟨.string (some text) :: before, .between⟩ := by
    simp [ScanState.step, ScanState.emit, TextBuffer.finish]
  simp only [tokensAfter, quoted, String.toList_ofList, List.cons_append, List.append_assoc,
    List.foldl_cons, List.foldl_append, opened, foldl_escaped, List.nil_append, closed]

end strings

section blanks

/-- Between tokens, blanks are skipped. -/
theorem tokensAfter_spaces (count : Nat) (before : List Token) (tail : List Char)
    : tokensAfter before (List.replicate count ' ' ++ tail) = tokensAfter before tail := by
  induction count with
  | zero => rfl
  | succ count ih => exact ih

/-- What stands before an item is skipped. -/
theorem tokensAfter_lineBreak (layout : Layout) (level : Nat) (before : List Token)
    (tail : List Char)
    : tokensAfter before ((layout.lineBreak level).toList ++ tail) = tokensAfter before tail := by
  cases layout with
  | compact => rfl
  | indented =>
      simp only [Layout.lineBreak, String.toList_ofList, List.cons_append]
      exact tokensAfter_spaces _ _ _

theorem tokensAfter_colon (layout : Layout) (before : List Token) (tail : List Char)
    : tokensAfter before (layout.colon.toList ++ tail) = tokensAfter (.colon :: before) tail := by
  cases layout <;> rfl

/-- A number ends at whatever may stand behind a value: at a closing bracket, or at a comma. -/
theorem marked_close (layout : Layout) (level : Nat) (close : Char)
    (bracket : close ∈ [']', '\x7d']) (tail : List Char)
    : Marked ((layout.lineBreak level).toList ++ close :: tail) := by
  cases layout with
  | compact =>
      have either : close = ']' ∨ close = '\x7d' := by simpa using bracket
      rcases either with rfl | rfl
      · exact .mark (by simp)
      · exact .mark (by simp)
  | indented =>
      simp only [Layout.lineBreak, String.toList_ofList, List.cons_append]
      exact .mark (by simp)

end blanks

section values

variable {layout : Layout}

theorem comma_toList : ",".toList = [','] :=
  rfl

theorem marked_items {level : Nat} (items : List Json) {tail : List Char} (marked : Marked tail)
    : Marked ((writeItems layout level items).toList ++ tail) := by
  cases items with
  | nil => exact marked
  | cons item rest =>
      simp only [writeItems, String.toList_append, List.append_assoc, comma_toList]
      exact .mark (by simp)

theorem marked_fields {level : Nat} (fields : List (String × Json)) {tail : List Char}
    (marked : Marked tail)
    : Marked ((writeFields layout level fields).toList ++ tail) := by
  cases fields with
  | nil => exact marked
  | cons field rest =>
      simp only [writeFields, String.toList_append, List.append_assoc, comma_toList]
      exact .mark (by simp)

theorem tokensAfter_comma (before : List Token) (tail : List Char)
    : tokensAfter before (",".toList ++ tail) = tokensAfter (.comma :: before) tail :=
  rfl

theorem tokensAfter_items {level : Nat} {items : List Json}
    (each : ∀ item ∈ items, Scans (item.writeAt layout level).toList item.tokensOf)
    (before : List Token) {tail : List Char} (marked : Marked tail)
    : tokensAfter before ((writeItems layout level items).toList ++ tail)
      = tokensAfter ((itemTokens items).reverse ++ before) tail := by
  induction items generalizing before with
  | nil => rfl
  | cons item rest ih =>
      have after := ih fun other present => each other (List.mem_cons_of_mem _ present)
      have first := each item List.mem_cons_self
      simp only [writeItems, String.toList_append, List.append_assoc]
      -- In front of the rest or of what comes after all items, the item may end in a number.
      rw [tokensAfter_comma, tokensAfter_lineBreak, first _ _ (marked_items rest marked), after]
      simp [itemTokens]

theorem scans_field {level : Nat} {field : String × Json}
    (value : Scans (field.2.writeAt layout level).toList field.2.tokensOf)
    : Scans (writeField layout level field).toList (fieldTokens field) := by
  intro before tail marked
  obtain ⟨name, inner⟩ := field
  simp only [writeField, String.toList_append, List.append_assoc]
  rw [tokensAfter_quoted, tokensAfter_colon, value _ _ marked]
  simp [fieldTokens]

theorem tokensAfter_fields {level : Nat} {fields : List (String × Json)}
    (each : ∀ field ∈ fields, Scans (field.2.writeAt layout level).toList field.2.tokensOf)
    (before : List Token) {tail : List Char} (marked : Marked tail)
    : tokensAfter before ((writeFields layout level fields).toList ++ tail)
      = tokensAfter ((fieldsTokens fields).reverse ++ before) tail := by
  induction fields generalizing before with
  | nil => rfl
  | cons field rest ih =>
      have after := ih fun other present => each other (List.mem_cons_of_mem _ present)
      have first := scans_field (each field List.mem_cons_self)
      simp only [writeFields, String.toList_append, List.append_assoc]
      rw [tokensAfter_comma, tokensAfter_lineBreak, first _ _ (marked_fields rest marked), after]
      simp [fieldsTokens]

theorem scans_array {level : Nat} {items : List Json}
    (each : ∀ item ∈ items, Scans (item.writeAt layout (level + 1)).toList item.tokensOf)
    : Scans ((Json.array items).writeAt layout level).toList (Json.array items).tokensOf := by
  intro before tail marked
  cases items with
  | nil =>
      rw [writeAt, tokensOf]
      rfl
  | cons item rest =>
      have closing : Marked ((layout.lineBreak level).toList ++ ("]".toList ++ tail)) :=
        marked_close layout level ']' (by simp) tail
      have first := each item List.mem_cons_self
      have others := tokensAfter_items fun other present =>
        each other (List.mem_cons_of_mem _ present)
      have opened (text : List Char)
          : tokensAfter before ("[".toList ++ text) = tokensAfter (.openArray :: before) text :=
        rfl
      have closed (done : List Token)
          : tokensAfter done ("]".toList ++ tail) = tokensAfter (.closeArray :: done) tail :=
        rfl
      simp only [writeAt, String.toList_append, List.append_assoc]
      rw [opened, tokensAfter_lineBreak, first _ _ (marked_items rest closing),
        others _ closing, tokensAfter_lineBreak, closed]
      simp [tokensOf]

theorem scans_object {level : Nat} {fields : List (String × Json)}
    (each : ∀ field ∈ fields, Scans (field.2.writeAt layout (level + 1)).toList field.2.tokensOf)
    : Scans ((Json.object fields).writeAt layout level).toList (Json.object fields).tokensOf := by
  intro before tail marked
  cases fields with
  | nil =>
      rw [writeAt, tokensOf]
      rfl
  | cons field rest =>
      have closing : Marked ((layout.lineBreak level).toList ++ ("\x7d".toList ++ tail)) :=
        marked_close layout level '\x7d' (by simp) tail
      have first := scans_field (each field List.mem_cons_self)
      have others := tokensAfter_fields fun other present =>
        each other (List.mem_cons_of_mem _ present)
      have opened (text : List Char)
          : tokensAfter before ("\x7b".toList ++ text) = tokensAfter (.openObject :: before) text :=
        rfl
      have closed (done : List Token)
          : tokensAfter done ("\x7d".toList ++ tail) = tokensAfter (.closeObject :: done) tail :=
        rfl
      simp only [writeAt, String.toList_append, List.append_assoc]
      rw [opened, tokensAfter_lineBreak, first _ _ (marked_fields rest closing),
        others _ closing, tokensAfter_lineBreak, closed]
      simp [tokensOf]

/-- The text of a canonical value is scanned to the tokens of the value, by induction on the value.
-/
theorem scans_writeAt {value : Json} (canonical : value.Canonical) (level : Nat)
    : Scans (value.writeAt layout level).toList value.tokensOf := by
  induction value generalizing level with
  | null =>
      intro before tail _
      rw [writeAt, tokensOf]
      rfl
  | bool value =>
      intro before tail _
      cases value with
      | false =>
          rw [writeAt, tokensOf]
          rfl
      | true =>
          rw [writeAt, tokensOf]
          rfl
  | number value =>
      cases canonical with
      | number legible => exact legible
  | string text =>
      intro before tail _
      exact tokensAfter_quoted text before tail
  | array items ih =>
      cases canonical with
      | array each =>
          exact scans_array fun item present => ih item present (each item present) (level + 1)
  | object fields ih =>
      cases canonical with
      | object each =>
          exact scans_object fun field present => ih field present (each field present) (level + 1)

end values

theorem tokens_write {value : Json} (canonical : value.Canonical) (layout : Layout)
    : tokens (value.write layout).toList = value.tokensOf := by
  have scans : Scans (value.writeAt layout 0).toList value.tokensOf := scans_writeAt canonical 0
  -- Nothing was scanned before the text, and nothing comes after it.
  have whole := scans [] [] .done
  rw [List.append_nil, List.append_nil] at whole
  exact whole.trans (List.reverse_reverse _)

/-- The document of a canonical value's text is the draft of the value, with nothing after it. -/
theorem ofText_write {value : Json} (canonical : value.Canonical) (layout : Layout)
    : Draft.ofText (value.write layout) = ⟨value.toDraft, false⟩ := by
  rw [Draft.ofText, tokens_write canonical, Draft.Builder.finish_tokensOf]

end QueryTree.Json
