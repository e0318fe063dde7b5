import QueryTree.Proofs.Code.Term
import QueryTree.Proofs.Compile.Node
import QueryTree.Proofs.Schema.Plain
import QueryTree.Proofs.Text

/-! Insight tests and the relationship that leads to insights. A test asks for some element of a
collection, whatever the relationship is. That is what the relationship itself would make of the
test where it is a collection, up to the name of the variable, and not where it leads to one insight
at most.
-/

namespace QueryTree

-----------------------------------------------------------------------------------------
-- Code that asks for a badge
-----------------------------------------------------------------------------------------

/-- The code of "some of the insights, each bound to `binder`, has this badge". -/
def someInsightCode (subject binder badge : String) : String :=
  subject ++ ".insights.any((" ++ binder ++ ") => "
    ++ binder ++ ".badge == " ++ Text.quote badge ++ ")"

/-- The code of "there is an insight, and it has this badge". -/
def oneInsightCode (subject badge : String) : String :=
  "(!!" ++ subject ++ ".insights && "
    ++ subject ++ ".insights.badge == " ++ Text.quote badge ++ ")"

/-- A predicate, or the negation of the whole of it. -/
def signedCode (negated : Bool) (code : String) : String :=
  if negated then "!(" ++ code ++ ")" else code

/-- What a relationship makes of the question whether a related entity has this badge. -/
def Relationship.badgeTest (relationship : Relationship) (subject : Term) (badge : String)
    : Except CompileFault String :=
  (relationship.matching subject fun inner =>
    .ok (.compare (.member inner "badge") "==" (Term.text badge))).map Term.code

-----------------------------------------------------------------------------------------
-- The two kinds of code, told apart by the ampersands in them
-----------------------------------------------------------------------------------------

theorem Text.count_ampersand_of_isIdentifier {text : String} (identifier : isIdentifier text = true)
    : text.toList.count '&' = 0 := by
  rw [List.count_eq_zero]
  intro present
  exact absurd (starts_or_continues_of_isIdentifier identifier present) (by decide)

theorem count_ampersand_someInsightCode {binder : String}
    (identifier : Text.isIdentifier binder = true) (subject badge : String)
    : (someInsightCode subject binder badge).toList.count '&'
      = subject.toList.count '&' + (Text.quote badge).toList.count '&' := by
  simp [someInsightCode, Text.count_ampersand_of_isIdentifier identifier]

theorem count_ampersand_oneInsightCode (subject badge : String)
    : (oneInsightCode subject badge).toList.count '&'
      = 2 * subject.toList.count '&' + (Text.quote badge).toList.count '&' + 2 := by
  simp [oneInsightCode]
  omega

theorem oneInsightCode_ne_someInsightCode {binder : String}
    (identifier : Text.isIdentifier binder = true) (subject badge : String)
    : oneInsightCode subject badge ≠ someInsightCode subject binder badge := by
  intro same
  have counts := congrArg (·.toList.count '&') same
  simp only [count_ampersand_oneInsightCode, count_ampersand_someInsightCode identifier] at counts
  omega

-----------------------------------------------------------------------------------------
-- The terms that are written like this
-----------------------------------------------------------------------------------------

theorem code_any_insight (subject : Term) (binder badge : String)
    : (Term.any (.member subject ObjectType.insightsId) binder
          (.compare (.member (.name binder) "badge") "==" (Term.text badge))).code
      = someInsightCode subject.code binder badge := by
  have quoted : (Term.text badge).code = Text.quote badge := rfl
  simp [someInsightCode, ObjectType.insightsId, quoted, ← String.toList_inj]

theorem code_insight (subject : Term) (badge : String)
    : (Term.group
          (.connect .and
            [ Term.present (.member subject ObjectType.insightsId),
              .compare (.member (.member subject ObjectType.insightsId) "badge") "=="
                (Term.text badge) ])).code
      = oneInsightCode subject.code badge := by
  have quoted : (Term.text badge).code = Text.quote badge := rfl
  simp [oneInsightCode, ObjectType.insightsId, Term.present, Combiner.symbol, quoted,
    ← String.toList_inj]

namespace Relationship

variable {relationship : Relationship} (called : relationship.id = ObjectType.insightsId)
include called

theorem badgeTest_of_collection (shape : relationship.shape = .collection)
    (subject : Term) (badge : String)
    : relationship.badgeTest subject badge
      = .ok (someInsightCode subject.code elementName badge) := by
  rw [← code_any_insight, ← called]
  simp only [badgeTest, matching, shape, related, Except.map]

theorem badgeTest_of_singular (shape : relationship.shape = .singular)
    (subject : Term) (badge : String)
    : relationship.badgeTest subject badge = .ok (oneInsightCode subject.code badge) := by
  rw [← code_insight, ← called]
  simp only [badgeTest, matching, shape, related, Except.map]

end Relationship

/-- A type with insights has a relationship that leads to them. -/
theorem ObjectType.exists_relationship_of_hasInsights {type : ObjectType}
    (capable : type.hasInsights = true)
    : ∃ relationship, type.relationship? insightsId = some relationship := by
  unfold hasInsights at capable
  split at capable
  · rename_i relationship found
    exact ⟨relationship, found⟩
  · cases capable

-----------------------------------------------------------------------------------------
-- What insight tests are compiled to
-----------------------------------------------------------------------------------------

namespace Compiler

theorem code_negateIf (negated : Bool) (term : Term)
    : (negateIf negated term).code = signedCode negated term.code := by
  cases negated <;> rfl

/-- An insight test always asks for some element of a collection. -/
theorem code_of_insight {compiler : Compiler} {type : ObjectType} {subject : Term} {depth : Nat}
    {negated : Bool} {badge : String} {term : Term}
    (compiled : compiler.node type subject depth (.insight negated badge) = .ok term)
    : type.hasInsights = true
      ∧ term.code = signedCode negated (someInsightCode subject.code insightName badge) := by
  cases (node_eq_ok.mp compiled).2 with
  | insight capable =>
      refine ⟨capable, (code_negateIf ..).trans (congrArg (signedCode negated) ?_)⟩
      exact code_any_insight subject insightName badge

/-- An insight test that compiles for a type of a document asks for some element of a collection,
and its negation is the negation of that. Up to the name of the variable this is what the type's own
relationship to its insights makes of the test exactly if that relationship is a collection. The
only other ones lead to one insight at most, and make a test of that one.
-/
theorem insight_code_as_related_iff_collection {document : SchemaDocument} {schema : Schema}
    (valid : document.toSchema = .ok schema) {name : String} {type : ObjectType}
    (known : schema.get? name = some type) {maxDepth : Nat} {subject badge code : String}
    {negated : Bool}
    (done
      : generateForType ⟨schema, maxDepth⟩ name subject (.insight negated badge) = .ok code)
    : ∃ relationship,
        type.relationship? ObjectType.insightsId = some relationship
        ∧ code = signedCode negated (someInsightCode subject insightName badge)
        ∧ ((∃ binder,
              Text.isIdentifier binder = true
              ∧ relationship.badgeTest (.name subject) badge
                = .ok (someInsightCode subject binder badge))
            ↔ relationship.shape = .collection)
        ∧ (relationship.shape = .collection
            ∨ relationship.shape = .singular
              ∧ relationship.badgeTest (.name subject) badge
                = .ok (oneInsightCode subject badge)) := by
  obtain ⟨_, term, knownAlso, compiled, rfl⟩ := generateForType_eq_ok.mp done
  obtain rfl := Option.some.inj (known.symm.trans knownAlso)
  obtain ⟨capable, written⟩ := code_of_insight compiled
  obtain ⟨relationship, found⟩ := ObjectType.exists_relationship_of_hasInsights capable
  have called := ObjectType.id_of_relationship? found
  have plain := SchemaDocument.plain_of_toSchema valid name type known
  refine ⟨relationship, found, written, ?_⟩
  rcases plain.shape_of_relationship? found with shape | shape
  · refine ⟨iff_of_true ⟨Relationship.elementName, rfl, ?_⟩ shape, .inl shape⟩
    exact Relationship.badgeTest_of_collection called shape (.name subject) badge
  · have one := Relationship.badgeTest_of_singular called shape (.name subject) badge
    refine ⟨iff_of_false ?_ (by simp [shape]), .inr ⟨shape, one⟩⟩
    intro some
    obtain ⟨binder, identifier, same⟩ := some
    exact oneInsightCode_ne_someInsightCode identifier subject badge
      (Except.ok.inj (one.symm.trans same))

open SchemaDocument (devicesSchema) in
/-- Devices have a collection of insights, and are asked for some of them either way. -/
theorem devices_insight_code_as_related
    : ∃ type relationship,
        devicesSchema.get? "Device" = some type
        ∧ type.relationship? ObjectType.insightsId = some relationship
        ∧ generateForType ⟨devicesSchema, 1⟩ "Device" "x" (.insight true "late")
          = .ok (signedCode true (someInsightCode "x" insightName "late"))
        ∧ ∃ binder,
            Text.isIdentifier binder = true
            ∧ relationship.badgeTest (.name "x") "late"
              = .ok (someInsightCode "x" binder "late") := by
  have done
      : generateForType ⟨devicesSchema, 1⟩ "Device" "x" (.insight true "late")
        = .ok (signedCode true (someInsightCode "x" insightName "late")) :=
    rfl
  obtain ⟨relationship, found, _, asRelated, _⟩ :=
    insight_code_as_related_iff_collection SchemaDocument.devices_toSchema rfl done
  obtain rfl := Option.some.inj found
  exact ⟨_, _, rfl, rfl, done, asRelated.mpr rfl⟩

end Compiler

namespace SchemaDocument

/-- A document that gives a ticket one insight at most. -/
def tickets : SchemaDocument where
  types :=
    { entries :=
        [ ("RiskTriggerInsight", ⟨[], [], [], none⟩),
          ("Ticket", ⟨[], [], [⟨"insights", none, "", "RiskTriggerInsight", .singular⟩], none⟩) ]
      ascending := List.pairwise_pair.mpr (by decide) }

def ticketsSchema : Schema :=
  tickets.types.mapValues TypeEntry.toObjectType

end SchemaDocument

open SchemaDocument (tickets ticketsSchema) in
/-- A ticket is asked for some of its insights, though it has one at most and its relationship would
ask for that one.
-/
theorem Compiler.ticket_insight_code_not_as_related
    : ∃ type relationship,
        tickets.toSchema = .ok ticketsSchema
        ∧ ticketsSchema.get? "Ticket" = some type
        ∧ type.relationship? ObjectType.insightsId = some relationship
        ∧ generateForType ⟨ticketsSchema, 1⟩ "Ticket" "x" (.insight false "late")
          = .ok "x.insights.any((insight) => insight.badge == \"late\")"
        ∧ relationship.badgeTest (.name "x") "late"
          = .ok "(!!x.insights && x.insights.badge == \"late\")"
        ∧ ∀ binder,
            Text.isIdentifier binder = true
            → relationship.badgeTest (.name "x") "late"
              ≠ .ok (someInsightCode "x" binder "late") :=
  ⟨_, _, rfl, rfl, rfl, rfl, rfl, fun _ identifier same =>
    oneInsightCode_ne_someInsightCode identifier "x" "late" (Except.ok.inj same)⟩

end QueryTree
