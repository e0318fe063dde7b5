import QueryTree.Proofs.SavedQuery.Import

/-! Saved queries and subjects. Importing compiles a query for one subject only, and that is enough:
the query then compiles for every subject.
-/

namespace QueryTree.SavedQuery

/-- An imported query compiled for the subject that imports are checked with. -/
theorem compiles_of_ofText {compiler : Compiler} {text : String} {saved : SavedQuery}
    (imported : ofText compiler text = .ok saved)
    : ∃ code,
        compiler.generateForType saved.objectType validationSubject saved.query = .ok code := by
  obtain ⟨envelope, _, _, imports⟩ := exists_envelope_of_ofText imported
  exact imports.compiles

theorem compile_eq_ok {compiler : Compiler} {saved : SavedQuery} {subject code : String}
    (done : compiler.generateForType saved.objectType subject saved.query = .ok code)
    : saved.compile compiler subject
      = .ok ⟨saved.objectType, code, saved.query.fingerprint⟩ := by
  simp only [compile, done, Except.map]

/-- The subject does not matter for whether an expression compiles. Over the schema of a document,
either one fault meets every subject, or there are at least two fragments that make the code of
every subject when it is put between them. So a query that was imported, and compiled for one
subject on the way, compiles for all of them.
-/
theorem compile_for_every_subject {document : SchemaDocument} {schema : Schema}
    (valid : document.toSchema = .ok schema) (maxDepth : Nat)
    : (∀ name expression,
        (∃ fault,
          ∀ subject,
            Compiler.generateForType ⟨schema, maxDepth⟩ name subject expression = .error fault)
        ∨ ∃ fragments : List String,
            2 ≤ fragments.length
            ∧ ∀ subject,
                Compiler.generateForType ⟨schema, maxDepth⟩ name subject expression
                = .ok (subject.intercalate fragments))
      ∧ ∀ text saved,
          ofText ⟨schema, maxDepth⟩ text = .ok saved
          → ∀ subject, ∃ compiled, saved.compile ⟨schema, maxDepth⟩ subject = .ok compiled := by
  have plain := SchemaDocument.plain_of_toSchema valid
  constructor
  · intro name expression
    cases first
      : Compiler.generateForType ⟨schema, maxDepth⟩ name validationSubject expression with
    | error fault => exact .inl ⟨fault, Compiler.generateForType_error plain.blind first⟩
    | ok code => exact .inr (Compiler.generateForType_fragments plain first)
  · intro text saved imported subject
    obtain ⟨code, checked⟩ := compiles_of_ofText imported
    obtain ⟨code, done⟩ := Compiler.generateForType_ok plain.blind checked subject
    exact ⟨_, compile_eq_ok done⟩

/-- Over devices, the owner of a peer is asked for its name by one list of fragments. -/
theorem devices_compile_for_every_subject
    : SchemaDocument.devices.toSchema = .ok SchemaDocument.devicesSchema
      ∧ ∃ fragments : List String,
          2 ≤ fragments.length
          ∧ ∀ subject,
              Compiler.generateForType ⟨SchemaDocument.devicesSchema, 3⟩ "Device" subject
                (.relationship true "peers"
                  (some (.relationship false "owner" (some (.name .equal "core")))))
              = .ok (subject.intercalate fragments) := by
  refine ⟨SchemaDocument.devices_toSchema, ?_⟩
  rcases (compile_for_every_subject SchemaDocument.devices_toSchema 3).1 "Device"
    (.relationship true "peers"
      (some (.relationship false "owner" (some (.name .equal "core"))))) with
    ⟨fault, failed⟩ | found
  · exact absurd (failed "d") nofun
  · exact found

end QueryTree.SavedQuery
