import Std.Data.ExtTreeMap
import RuleVocabulary.Category
import RuleVocabulary.Name

/-!
# Vocabularies

A vocabulary is what an authoring tool offers to the author of a rule: the fact types with their
fields, a category for each field, the globals with the short names of their types, and the
sentences for conditions and actions. It is put together by edits. A fact type is listed where it
was first added, entries of the tables are overwritten, and sentences are kept all. Two
vocabularies are equal if they hold the same, whatever edits made them.
-/

set_option autoImplicit false

namespace RuleVocabulary

/-- What an authoring tool offers. -/
structure Vocabulary where
  factTypes : List String
  /-- The names of the fields of each type. -/
  fields : Std.ExtTreeMap String (List String) compare
  /-- The category of each field, by type and field. -/
  fieldTypes : Std.ExtTreeMap String Category compare
  /-- The type of each global. -/
  globals : Std.ExtTreeMap String String compare
  conditionSentences : List String
  actionSentences : List String
deriving DecidableEq

namespace Vocabulary

/-- The vocabulary that offers nothing. -/
def empty : Vocabulary := ⟨[], ∅, ∅, ∅, [], []⟩

/-- The key of a field in the table of categories. -/
def fieldKey (type field : String) : String :=
  Name.join type field

/-! ## Edits -/

/-- Lists a fact type, unless it is listed already. -/
def addFactType (vocabulary : Vocabulary) (name : String) : Vocabulary :=
  if name ∈ vocabulary.factTypes then vocabulary
  else { vocabulary with factTypes := vocabulary.factTypes ++ [name] }

/-- Sets the fields of a type. -/
def setFields (vocabulary : Vocabulary) (type : String) (fields : List String) : Vocabulary :=
  { vocabulary with fields := vocabulary.fields.insert type fields }

/-- Sets the category under a key. -/
def setFieldType (vocabulary : Vocabulary) (key : String) (category : Category) : Vocabulary :=
  { vocabulary with fieldTypes := vocabulary.fieldTypes.insert key category }

/-- Binds a global to the short name of its type. -/
def bindGlobal (vocabulary : Vocabulary) (identifier type : String) : Vocabulary :=
  { vocabulary with globals := vocabulary.globals.insert identifier type }

/-- Adds a sentence for conditions. -/
def addCondition (vocabulary : Vocabulary) (sentence : String) : Vocabulary :=
  { vocabulary with conditionSentences := vocabulary.conditionSentences ++ [sentence] }

/-- Adds a sentence for actions. -/
def addAction (vocabulary : Vocabulary) (sentence : String) : Vocabulary :=
  { vocabulary with actionSentences := vocabulary.actionSentences ++ [sentence] }

/-- A change to a vocabulary. -/
inductive Edit where
  | factType (name : String)
  | fields (type : String) (fields : List String)
  | fieldType (key : String) (category : Category)
  | global (identifier type : String)
  | condition (sentence : String)
  | action (sentence : String)
  /-- Everything is taken back. -/
  | reset
deriving DecidableEq, Repr

/-- Applies an edit. -/
def edit (vocabulary : Vocabulary) : Edit → Vocabulary
  | .factType name => vocabulary.addFactType name
  | .fields type fields => vocabulary.setFields type fields
  | .fieldType key category => vocabulary.setFieldType key category
  | .global identifier type => vocabulary.bindGlobal identifier type
  | .condition sentence => vocabulary.addCondition sentence
  | .action sentence => vocabulary.addAction sentence
  | .reset => empty

/-- The vocabulary that a sequence of edits makes. -/
def ofEdits (edits : List Edit) : Vocabulary :=
  edits.foldl edit empty

/-! ## Questions -/

/-- Whether a fact type is listed. -/
def hasFactType (vocabulary : Vocabulary) (name : String) : Bool :=
  vocabulary.factTypes.contains name

/-- Whether the fields of a type are known. -/
def hasFields (vocabulary : Vocabulary) (type : String) : Bool :=
  vocabulary.fields.contains type

/-- The fields of a type. -/
def fields? (vocabulary : Vocabulary) (type : String) : Option (List String) :=
  vocabulary.fields[type]?

/-- The category under a key. -/
def categoryUnder? (vocabulary : Vocabulary) (key : String) : Option Category :=
  vocabulary.fieldTypes[key]?

/-- The category of a field. -/
def category? (vocabulary : Vocabulary) (type field : String) : Option Category :=
  vocabulary.categoryUnder? (fieldKey type field)

/-- The type of a global. -/
def globalType? (vocabulary : Vocabulary) (identifier : String) : Option String :=
  vocabulary.globals[identifier]?

end Vocabulary

end RuleVocabulary
