import QueryTree.CommandLine.Run
import QueryTree.Proofs.Compile.Lines
import QueryTree.Proofs.Digest
import QueryTree.Proofs.SavedQuery.Subject
import QueryTree.Proofs.Schema.Stored
import QueryTree.Proofs.Text

/-! The lines that are written where a query is compiled. The code ends in a line break, and so does
the fingerprint if it is asked for. Both are one line each as long as no text in the code breaks:
neither operands nor names are checked for line breaks or lose them by quoting.
-/

namespace QueryTree

namespace Text

/-- Lines one after the other, each with a line break at its end. -/
def unlines : List String → String
  | [] => ""
  | line :: rest => line ++ "\n" ++ unlines rest

/-- The text consists of these lines: each of them ends in a line break and has no other. -/
structure InLines (text : String) (lines : List String) : Prop where
  written : text = unlines lines
  whole : ∀ line ∈ lines, ¬Breaks line

theorem count_unlines (lines : List String)
    : (unlines lines).toList.count '\n'
      = (lines.flatMap String.toList).count '\n' + lines.length := by
  induction lines with
  | nil => rfl
  | cons line rest ih =>
      simp only [unlines, String.toList_append, List.count_append, ih, List.flatMap_cons,
        List.length_cons]
      have mark : "\n".toList.count '\n' = 1 := rfl
      omega

theorem InLines.count {text : String} {lines : List String} (consists : InLines text lines)
    : text.toList.count '\n' = lines.length := by
  have none : '\n' ∉ lines.flatMap String.toList := by
    intro broken
    obtain ⟨line, present, breaks⟩ := List.mem_flatMap.mp broken
    exact consists.whole line present breaks
  rw [consists.written, count_unlines, List.count_eq_zero.mpr none, Nat.zero_add]

/-- Lines written one after the other are no other lines of the same number, if one of them has a
line break of its own.
-/
theorem not_inLines_of_breaks {lines others : List String} {line : String} (present : line ∈ lines)
    (breaks : Breaks line) (same : others.length = lines.length)
    : ¬InLines (unlines lines) others := by
  intro consists
  have counted := consists.count
  have more : 0 < (lines.flatMap String.toList).count '\n' :=
    List.count_pos_iff.mpr (List.mem_flatMap.mpr ⟨line, present, breaks⟩)
  rw [count_unlines] at counted
  omega

theorem inLines_unlines {lines : List String}
    : InLines (unlines lines) lines ↔ ∀ line ∈ lines, ¬Breaks line :=
  ⟨InLines.whole, fun whole => ⟨rfl, whole⟩⟩

theorem not_breaks_of_isIdentifier {text : String} (identifier : isIdentifier text = true)
    : ¬Breaks text := by
  intro breaks
  exact absurd (starts_or_continues_of_isIdentifier identifier breaks) (by decide)

end Text

theorem Schema.plain_of_ofText {text : String} {schema : Schema} (read : ofText text = .ok schema)
    : schema.Plain := by
  unfold ofText at read
  split at read
  · cases read
  · split at read
    · cases read
    · rename_i valid
      exact Except.ok.inj read ▸ SchemaDocument.plain_of_toSchema valid

namespace CommandLine

open Text (Breaks InLines unlines)

variable {workspace : Workspace} {config : Config} {schema query output : String}
  {subject : Option String} {fingerprint : Bool}

/-- The lines for a saved query: its code, and its fingerprint if that is asked for. -/
def linesFor (saved : SavedQuery) (code : String) (fingerprint : Bool) : List String :=
  code :: if fingerprint then [saved.query.fingerprint] else []

namespace Command

theorem readSchema_eq_ok {types : Schema}
    : readSchema workspace schema = .ok types
      ↔ ∃ text, readText workspace schema = .ok text ∧ Schema.ofText text = .ok types := by
  simp only [readSchema, bind_eq_ok, mapError_eq_ok]

theorem unlines_linesFor (saved : SavedQuery) (code : String)
    : unlines (linesFor saved code fingerprint)
      = code ++ "\n" ++ if fingerprint then saved.query.fingerprint ++ "\n" else "" := by
  cases fingerprint <;> simp [linesFor, unlines]

theorem forall_not_breaks_linesFor {saved : SavedQuery} {code : String}
    : (∀ line ∈ linesFor saved code fingerprint, ¬Breaks line) ↔ ¬Breaks code := by
  have digits : ¬Breaks saved.query.fingerprint := by
    intro breaks
    exact absurd (saved.query.fingerprint_digits.2 _ breaks) (by decide)
  cases fingerprint <;> simp [linesFor, digits]

/-- A query is compiled exactly where its subject is an identifier, its files can be read, it can be
imported and it compiles for its subject.
-/
theorem run_compile_eq_ok
    : (Command.compile schema query subject fingerprint).run config workspace = .ok output
      ↔ Text.isIdentifier (subject.getD config.defaultSubject) = true
        ∧ ∃ types text saved code,
            readSchema workspace schema = .ok types
            ∧ readText workspace query = .ok text
            ∧ SavedQuery.ofText ⟨types, config.maxDepth⟩ text = .ok saved
            ∧ Compiler.generateForType ⟨types, config.maxDepth⟩ saved.objectType
                (subject.getD config.defaultSubject) saved.query
              = .ok code
            ∧ unlines (linesFor saved code fingerprint) = output := by
  rw [run, compileText]
  by_cases identifier : Text.isIdentifier (subject.getD config.defaultSubject) = true
  · simp only [identifier, Bool.not_true, Bool.false_eq_true, ↓reduceIte, bind_eq_ok,
      mapError_eq_ok, SavedQuery.compile, map_eq_ok, pure, Except.pure, Except.ok.injEq, true_and,
      unlines_linesFor]
    constructor
    · rintro ⟨types, known, text, read, saved, imported, _, ⟨code, compiled, rfl⟩, written⟩
      exact ⟨types, text, saved, code, known, read, imported, compiled, written⟩
    · rintro ⟨types, text, saved, code, known, read, imported, compiled, written⟩
      exact ⟨types, known, text, read, saved, imported, _, ⟨code, compiled, rfl⟩, written⟩
  · simp [identifier]

section named

open SchemaDocument (devices devicesSchema deviceEntry devices_toSchema)

/-- A query for the devices of a name. -/
def namedQuery (operand : String) : SavedQuery :=
  ⟨none, "Device", .name .equal operand, none⟩

/-- A place with the document of devices and a query for the devices of a name. -/
def namedWorkspace (operand : String) : Workspace where
  file path :=
    if path = "devices.json" then .text (devices.toJson.write .compact)
    else if path = "query.json" then .text ((namedQuery operand).exportText .compact)
    else .missing
  environment _ := none

/-- The code of a test of the name for the subject where nothing is said. -/
def nameCode (operand : String) : String :=
  defaultSubject ++ ".name == " ++ Text.quote operand

variable (operand : String)

theorem readSchema_named
    : readSchema (namedWorkspace operand) "devices.json" = .ok devicesSchema :=
  readSchema_eq_ok.mpr ⟨_, rfl, Schema.ofText_toJson devices_toSchema .compact⟩

theorem readText_named
    : readText (namedWorkspace operand) "query.json"
      = .ok ((namedQuery operand).exportText .compact) :=
  rfl

theorem generateForType_named (subject : String)
    : Compiler.generateForType ⟨devicesSchema, defaultMaxDepth⟩ "Device" subject
        (.name .equal operand)
      = .ok (subject ++ ".name == " ++ Text.quote operand) := by
  have code
      : Compiler.generateForType ⟨devicesSchema, defaultMaxDepth⟩ "Device" subject
          (.name .equal operand)
        = .ok (subject ++ "." ++ "name" ++ " " ++ "==" ++ " " ++ Text.quote operand) :=
    rfl
  rw [code]
  simp [← String.toList_inj]

theorem ofText_named
    : SavedQuery.ofText ⟨devicesSchema, defaultMaxDepth⟩
        ((namedQuery operand).exportText .compact)
      = .ok (namedQuery operand) := by
  have fits : (namedQuery operand).fits := Nat.le_add_left 2 125
  rw [SavedQuery.ofText_of_fits rfl fits, namedQuery, generateForType_named]

theorem run_named (fingerprint : Bool)
    : (Command.compile "devices.json" "query.json" none fingerprint).run .standard
          (namedWorkspace operand)
      = .ok (unlines (linesFor (namedQuery operand) (nameCode operand) fingerprint)) :=
  run_compile_eq_ok.mpr
    ⟨by decide, devicesSchema, _, namedQuery operand, nameCode operand, readSchema_named operand,
      readText_named operand, ofText_named operand, generateForType_named operand defaultSubject,
      rfl⟩

end named

/-- Whatever is compiled is written as the code of the imported query for the subject that counts
and, if it is asked for, the fingerprint of the query, 64 hexadecimal digits in lower case, with a
line break behind each. The output consists of these lines, and of no more, exactly if no operand,
badge or name in the code has a line break.
-/
theorem compile_writes_lines
    (done : (Command.compile schema query subject fingerprint).run config workspace = .ok output)
    : ∃ types text saved type code,
        readSchema workspace schema = .ok types
        ∧ readText workspace query = .ok text
        ∧ SavedQuery.ofText ⟨types, config.maxDepth⟩ text = .ok saved
        ∧ types.get? saved.objectType = some type
        ∧ Compiler.generateForType ⟨types, config.maxDepth⟩ saved.objectType
            (subject.getD config.defaultSubject) saved.query
          = .ok code
        ∧ output = unlines (linesFor saved code fingerprint)
        ∧ saved.query.fingerprint.length = 64
        ∧ (∀ c ∈ saved.query.fingerprint.toList, c ∈ Digest.hexDigits)
        ∧ (InLines output (linesFor saved code fingerprint)
          ↔ ¬BreaksIn (saved.query.places types type 1)) := by
  obtain ⟨identifier, types, text, saved, code, known, read, imported, compiled, written⟩ :=
    run_compile_eq_ok.mp done
  obtain ⟨source, _, schemaRead⟩ := readSchema_eq_ok.mp known
  have plain := Schema.plain_of_ofText schemaRead
  obtain ⟨type, term, found, node, rfl⟩ := Compiler.generateForType_eq_ok.mp compiled
  obtain ⟨long, digits⟩ := saved.query.fingerprint_digits
  refine ⟨types, text, saved, type, term.code, known, read, imported, found, compiled,
    written.symm, long, digits, ?_⟩
  have broken
      : Breaks term.code ↔ BreaksIn (saved.query.places types type 1) := by
    rw [Compiler.breaks_node plain (plain _ _ found) node, Term.code_name,
      or_iff_right (Text.not_breaks_of_isIdentifier identifier)]
  rw [← written, Text.inLines_unlines, forall_not_breaks_linesFor, broken]

/-- A query for the devices named core is written as its code and its fingerprint, two lines. -/
theorem core_compiles_to_two_lines
    : ∃ output,
        (Command.compile "devices.json" "query.json" none true).run .standard
          (namedWorkspace "core")
        = .ok output
        ∧ InLines output [nameCode "core", (namedQuery "core").query.fingerprint] := by
  refine ⟨_, run_named "core" true, ?_⟩
  obtain ⟨types, text, saved, type, code, known, read, imported, found, compiled, _, _, _, lines⟩ :=
    compile_writes_lines (run_named "core" true)
  obtain rfl := Except.ok.inj ((readSchema_named "core").symm.trans known)
  obtain rfl := Except.ok.inj ((readText_named "core").symm.trans read)
  obtain rfl := Except.ok.inj ((ofText_named "core").symm.trans imported)
  obtain rfl := Except.ok.inj ((generateForType_named "core" defaultSubject).symm.trans compiled)
  obtain rfl : SchemaDocument.deviceEntry.toObjectType = type := Option.some.inj found
  exact lines.mpr (by decide)

/-- A query for the devices whose name is written on two lines compiles as well, but the output is
neither two lines with the fingerprint nor one line without it.
-/
theorem name_on_two_lines_adds_a_line
    : (∃ output,
        (Command.compile "devices.json" "query.json" none true).run .standard
          (namedWorkspace "a\nb")
        = .ok output
        ∧ ∀ first second, ¬InLines output [first, second])
      ∧ ∃ output,
          (Command.compile "devices.json" "query.json" none false).run .standard
            (namedWorkspace "a\nb")
          = .ok output
          ∧ ∀ line, ¬InLines output [line] := by
  have breaks : Breaks (nameCode "a\nb") := by
    rw [nameCode, Text.breaks_append, Text.breaks_quote]
    exact .inr (by decide)
  have more {fingerprint : Bool} {others : List String}
      (same : others.length = if fingerprint then 2 else 1)
      : ¬InLines
          (unlines (linesFor (namedQuery "a\nb") (nameCode "a\nb") fingerprint)) others := by
    apply Text.not_inLines_of_breaks List.mem_cons_self breaks
    cases fingerprint <;> exact same
  refine ⟨⟨_, run_named "a\nb" true, ?_⟩, ⟨_, run_named "a\nb" false, ?_⟩⟩
  · exact fun first second => more rfl
  · exact fun line => more rfl

end Command

end CommandLine

end QueryTree
