import RuleVocabulary.Json.Value
import RuleVocabulary.Vocabulary.Basic

/-!
# Vocabularies as JSON

A vocabulary is written as an object with a member for each of its parts. The tables are objects
whose keys are in the order of their code points, and the lists keep their order.
-/

set_option autoImplicit false

namespace RuleVocabulary.Vocabulary

/-- A table as a JSON object. -/
def tableJson {α : Type} (value : α → Json.Value) (table : Std.ExtTreeMap String α compare) :
    Json.Value :=
  .object (table.toList.map fun (key, entry) => (key, value entry))

/-- A vocabulary as a JSON object. -/
def json (vocabulary : Vocabulary) : Json.Value :=
  .object [
    ("fact_types", .strings vocabulary.factTypes),
    ("fields", tableJson Json.Value.strings vocabulary.fields),
    ("field_types", tableJson (fun category => .string category.label) vocabulary.fieldTypes),
    ("globals", tableJson Json.Value.string vocabulary.globals),
    ("condition_sentences", .strings vocabulary.conditionSentences),
    ("action_sentences", .strings vocabulary.actionSentences)]

end RuleVocabulary.Vocabulary
