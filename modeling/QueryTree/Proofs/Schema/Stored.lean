import QueryTree.Proofs.Json.Storing
import QueryTree.Proofs.Schema.Filling
import QueryTree.Schema.Document.Stored

/-! Schema documents survive being stored, whether their references hold or not. So a text that is
rewritten, however it was spelled, is a fixed point of rewriting and describes the same schema.
-/

namespace QueryTree

theorem NameMap.ofList_entries {α : Type} (map : NameMap α) : ofList map.entries = map := by
  apply ext_get?
  intro name
  rw [get?_ofList]
  ext value
  rw [lastValue?_eq_some map.nodup_names, get?_eq_some]

namespace SchemaDocument

open Json (Reader RecordField RecordShape)
open Json.RecordShape (Fills)

variable {α σ : Type} {fields : List (RecordField σ)} {written : List (String × Json)}
  {record last : σ}

/-- A field that is left out where there is no value is read back, if having none is what the record
starts with.
-/
theorem fills_optionalField {name : String} {read : Reader α} {put : Option α → σ → σ}
    {store : α → Json} {value : Option α} (canonical : ∀ held, (store held).Canonical)
    (stored
      : ∀ held, value = some held →
          Reader.optional read (store held).toDraft = .ok (some held))
    (blank : put none record = record) (rest : Fills fields written (put value record) last)
    : Fills (.omittable name (Reader.optional read) put :: fields)
        (optionalField name (value.map store) ++ written) record last := by
  cases value with
  | none =>
      rw [blank] at rest
      exact .skip rfl rest
  | some held => exact .omittable (canonical held) (stored held rfl) rest

theorem PropertyEntry.stores (entry : PropertyEntry) : shape.Stores entry.toJson entry := by
  obtain ⟨id, displayName, description, dataType, enumValues, openEnum, unorderedEnum⟩ := entry
  have typed : Vocabulary.read (Json.string dataType.token).toDraft = .ok dataType := by
    cases dataType <;> rfl
  refine .object (by decide) ?_
  simp only [List.append_assoc, List.cons_append, List.nil_append]
  refine .mandatory .string rfl ?_
  refine fills_optionalField (fun _ => .string) (fun _ _ => rfl) rfl ?_
  refine .omittable .string rfl (.mandatory .string typed ?_)
  refine fills_optionalField Json.canonical_ofTexts ?_ rfl ?_
  · intro texts _
    exact congrArg (Except.map some) (Reader.texts_toDraft texts)
  · exact .omittable .bool rfl (.omittable .bool rfl .done)

theorem RelationshipEntry.stores (entry : RelationshipEntry) : shape.Stores entry.toJson entry := by
  obtain ⟨id, displayName, description, target, cardinality⟩ := entry
  have counted : Vocabulary.read (Json.string cardinality.token).toDraft = .ok cardinality := by
    cases cardinality <;> rfl
  refine .object (by decide) ?_
  simp only [List.cons_append, List.nil_append]
  refine .mandatory .string rfl ?_
  refine fills_optionalField (fun _ => .string) (fun _ _ => rfl) rfl ?_
  exact .omittable .string rfl (.mandatory .string rfl (.omittable .string counted .done))

theorem TypeEntry.stores (entry : TypeEntry) : shape.Stores entry.toJson entry := by
  obtain ⟨supertypes, properties, relationships, naming⟩ := entry
  refine .object (by decide) ?_
  simp only [List.cons_append, List.nil_append]
  refine .omittable (Json.canonical_ofTexts _) (Reader.texts_toDraft _) ?_
  refine .omittable (RecordShape.canonical_list PropertyEntry.stores _)
    (RecordShape.read_list PropertyEntry.stores _) ?_
  refine .omittable (RecordShape.canonical_list RelationshipEntry.stores _)
    (RecordShape.read_list RelationshipEntry.stores _) ?_
  rw [← List.append_nil (optionalField "naming" _)]
  exact fills_optionalField (fun _ => .string) (fun _ _ => rfl) rfl .done

theorem stores (document : SchemaDocument) : shape.Stores document.toJson document := by
  obtain ⟨types⟩ := document
  have typesRead
      : Reader.table TypeEntry.shape.read
          (Json.object (types.entries.map fun entry => (entry.1, entry.2.toJson))).toDraft
        = .ok types.entries :=
    Reader.table_toDraft fun entry _ => entry.2.stores.read
  refine .object (by decide) (.mandatory ?_ typesRead ?_)
  · refine .object (List.forall_mem_map.mpr fun entry _ => entry.2.stores.canonical) ?_
    rw [List.map_map]
    exact types.nodup_names
  · rw [NameMap.ofList_entries]
    exact .done

theorem ofText_toJson (document : SchemaDocument) (layout : Json.Layout)
    : ofText (document.toJson.write layout) = .ok document :=
  (Reader.ofText_write shape.read document.stores.canonical layout).trans document.stores.read

/-- The text of a document, read and written again. -/
def rewritten (layout : Json.Layout) (text : String) : Except Json.Fault String :=
  (ofText text).map fun document => document.toJson.write layout

/-- A document is read back from its text in either layout. So the text that a text is rewritten to
stays as it is when it is rewritten, and reads as the same document and the same schema.
-/
theorem reading_undoes_writing
    : (∀ (document : SchemaDocument) layout,
        ofText (document.toJson.write layout) = .ok document)
      ∧ ∀ layout text again, rewritten layout text = .ok again →
          rewritten layout again = .ok again
          ∧ ofText again = ofText text
          ∧ Schema.ofText again = Schema.ofText text := by
  refine ⟨ofText_toJson, ?_⟩
  intro layout text again done
  cases found : ofText text with
  | error fault =>
      rw [rewritten, found] at done
      cases done
  | ok document =>
      rw [rewritten, found] at done
      obtain rfl := Except.ok.inj done
      have same := document.ofText_toJson layout
      refine ⟨?_, same, ?_⟩
      · rw [rewritten, same]
        rfl
      · rw [Schema.ofText, Schema.ofText, same, found]

/-- A document of two types out of order, one of them an array of the names it is read from. -/
def unsortedText : String :=
  "\x7b\"types\":\x7b\"b\":[[\"a\"]],\"a\":\x7b\"naming\":null\x7d\x7d\x7d"

/-- The same document as it is written. -/
def sortedText : String :=
  "\x7b\"types\":\x7b"
    ++ "\"a\":\x7b\"supertypes\":[],\"properties\":[],\"relationships\":[]\x7d,"
    ++ "\"b\":\x7b\"supertypes\":[\"a\"],\"properties\":[],\"relationships\":[]\x7d\x7d\x7d"

theorem reading_undoes_writing_unsorted
    : rewritten .compact unsortedText = .ok sortedText
      ∧ rewritten .compact sortedText = .ok sortedText
      ∧ ofText sortedText = ofText unsortedText
      ∧ Schema.ofText sortedText = Schema.ofText unsortedText := by
  have drafted
      : Json.Draft.ofText unsortedText
        = ⟨.object
            [(some "types",
              .object
                [(some "b", .array [.array [.string (some "a")] .closed] .closed),
                  (some "a", .object [(some "naming", .null)] .closed)]
                .closed)]
            .closed, false⟩ := by
    set_option maxRecDepth 20000 in rfl
  have read
      : ofText unsortedText
        = .ok ⟨NameMap.ofList [("b", ⟨["a"], [], [], none⟩), ("a", ⟨[], [], [], none⟩)]⟩ := by
    unfold ofText Reader.ofText
    rw [drafted]
    rfl
  have done : rewritten .compact unsortedText = .ok sortedText := by
    rw [rewritten, read]
    rfl
  exact ⟨done, reading_undoes_writing.2 .compact unsortedText sortedText done⟩

end SchemaDocument

theorem Schema.ofText_toJson {document : SchemaDocument} {schema : Schema}
    (valid : document.toSchema = .ok schema) (layout : Json.Layout)
    : ofText (document.toJson.write layout) = .ok schema := by
  rw [ofText, document.ofText_toJson layout]
  dsimp only
  rw [valid]

end QueryTree
