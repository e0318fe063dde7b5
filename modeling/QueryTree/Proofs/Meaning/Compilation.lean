import QueryTree.Proofs.Compile.Surface
import QueryTree.Proofs.Meaning.Correctness

/-! The correctness of compilation: generated code is the printing of a term of the language, and
the term holds in a world exactly where the expression does.
-/

namespace QueryTree.Compiler

/-- Compiled code means what the expression means. Over the schema of a document, for a subject that
is an identifier, the code of an expression is the printing of a term of the language; and in every
world, wherever the subject stands for an entity, the term holds if and only if the entity satisfies
the expression.
-/
theorem generateForType_means {document : SchemaDocument} {schema : Schema}
    (valid : document.toSchema = .ok schema) (maxDepth : Nat) {name subject : String}
    (identifier : Text.isIdentifier subject = true) {expression : Expression} {code : String}
    (generated : generateForType ⟨schema, maxDepth⟩ name subject expression = .ok code)
    : ∃ (type : ObjectType) (term : Term),
        schema.get? name = some type
        ∧ term.code = code
        ∧ term.Surface 3
        ∧ ∀ (world : World) (environment : world.Environment) (item : world.Item),
            environment subject = some item
            → (term.eval world environment).holds
              = expression.meaning world schema type item := by
  have plain := SchemaDocument.plain_of_toSchema valid
  obtain ⟨type, term, known, compiled, printed⟩ := generateForType_eq_ok.mp generated
  refine ⟨type, term, known, printed, ?_, ?_⟩
  · exact surface_node plain (plain name type known) (.name identifier) compiled
  · intro world environment item bound
    have stands : (Term.name subject).StandsFor environment item := by
      rw [Term.StandsFor, Term.eval_name, bound]
    exact holds_node plain (plain name type known) stands compiled

/-- Over devices, the tags of each peer are searched, although both lists bind the same variable. -/
theorem devices_peer_tagged_means
    : SchemaDocument.devices.toSchema = .ok SchemaDocument.devicesSchema
      ∧ Text.isIdentifier "s" = true
      ∧ ∃ (type : ObjectType) (term : Term),
          SchemaDocument.devicesSchema.get? "Device" = some type
          ∧ term.code = "s.peers.any((s) => s.tags.any((s) => s == \"core\"))"
          ∧ term.Surface 3
          ∧ ∀ (world : World) (environment : world.Environment) (item : world.Item),
              environment "s" = some item
              → (term.eval world environment).holds
                = (Expression.relationship false "peers"
                    (some (.property "tags" .includes "core"))).meaning world
                    SchemaDocument.devicesSchema type item := by
  refine ⟨SchemaDocument.devices_toSchema, by decide, ?_⟩
  exact generateForType_means SchemaDocument.devices_toSchema 2 (by decide) rfl

end QueryTree.Compiler
