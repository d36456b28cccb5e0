import RuleVocabulary.Expander
import RuleVocabulary.Header.Package
import RuleVocabulary.Imports
import RuleVocabulary.Inspection
import RuleVocabulary.Mapping.File
import RuleVocabulary.Vocabulary.Basic

/-!
# Loading vocabularies

A loader builds a vocabulary from a package header, archives and mapping files, in this order:
header, imports, templates, globals, sentences. Problems along the way become messages beside the
vocabulary; a fatal fault ends the build without one. Types are looked up in the loader's
registry, which lasts from build to build. Archives are expanded only when a type is missing, and
only once until the loader is reset.
-/

set_option autoImplicit false

namespace RuleVocabulary

/-- What lasts from build to build. The draft is the vocabulary that the latest build has entered so
far; a build begins with an empty one. -/
structure Loader where
  settings : Settings
  registry : Registry
  expander : Expander
  draft : Vocabulary

/-- What a build yields: a vocabulary and the messages of the problems met. -/
structure Outcome where
  vocabulary : Vocabulary
  messages : List String
deriving DecidableEq

namespace Loader

/-- A loader with the given settings. -/
def ofSettings (settings : Settings) : Loader :=
  ⟨settings, .ofSettings settings, .fresh, .empty⟩

/-- Makes a type known to a loader from the start. -/
def define (loader : Loader) (descriptor : Descriptor) : Loader :=
  { loader with registry := loader.registry.define descriptor }

/-- Empties the draft. -/
def cleared (loader : Loader) : Loader :=
  { loader with draft := .empty }

/-- Forgets all types from archives, so that archives may be expanded again. -/
def reset (loader : Loader) : Loader :=
  { loader with registry := loader.registry.clear, expander := loader.expander.reset }

/-! ## The state of a build -/

/-- How far a build has come. -/
structure Progress where
  loader : Loader
  messages : List String

namespace Progress

/-- A build that begins. -/
def start (loader : Loader) : Progress := ⟨loader.cleared, []⟩

/-- Adds a message. -/
def report (progress : Progress) (message : String) : Progress :=
  { progress with messages := progress.messages ++ [message] }

/-- The vocabulary entered so far. -/
def vocabulary (progress : Progress) : Vocabulary := progress.loader.draft

/-- Edits the vocabulary. -/
def edit (progress : Progress) (change : Vocabulary → Vocabulary) : Progress :=
  { progress with loader := { progress.loader with draft := change progress.loader.draft } }

/-- The registry of the loader. -/
def registry (progress : Progress) : Registry := progress.loader.registry

/-- The settings of the loader. -/
def settings (progress : Progress) : Settings := progress.loader.settings

end Progress

/-- A step of a build: it ends with a result or a fault, and the build goes on from, or breaks off
in, the state it leaves. -/
abbrev Step (α : Type) := Progress → Except Fault α × Progress

/-! ## Looking types up -/

/-- Expands the archives, unless that happened before; tells whether it ran. -/
def expandArchives (archives : List Archive) : Step Bool := fun progress =>
  let loader := progress.loader
  match loader.expander.expandInto archives loader.registry with
  | .error fault => (.error fault, progress)
  | .ok result =>
    (.ok result.ran, { progress with
      loader := { loader with registry := result.registry, expander := result.expander } })

/-- Looks for a type, and once more where that made an expansion run. -/
def search (archives : List Archive) (find : Registry → Except Fault (Option Descriptor)) :
    Step (Option Descriptor) := fun progress =>
  match find progress.registry with
  | .error fault => (.error fault, progress)
  | .ok (some found) => (.ok (some found), progress)
  | .ok none =>
    match expandArchives archives progress with
    | (.error fault, after) => (.error fault, after)
    | (.ok false, after) => (.ok none, after)
    | (.ok true, after) => (find after.registry, after)

/-- Looks up a type by its qualified name, and reports one that is not known. -/
def loadType (archives : List Archive) (name : String) : Step (Option Descriptor) :=
  fun progress =>
    match search archives (·.lookup name) progress with
    | (.ok none, after) => (.ok none, after.report ("Class not found: " ++ name))
    | answer => answer

/-- Looks up a type and its fields. -/
def loadFields (archives : List Archive) (name : String) :
    Step (Option (Descriptor × List InspectedField)) := fun progress =>
  match loadType archives name progress with
  | (.error fault, after) => (.error fault, after)
  | (.ok none, after) => (.ok none, after)
  | (.ok (some type), after) =>
    match Inspection.fields after.registry after.settings type with
    | .error fault => (.error fault, after)
    | .ok fields => (.ok (some (type, fields)), after)

/-- Ends a step at a fatal fault, and reports any other with the given introduction. -/
def recover (introduction : String) (fault : Fault) : Step Unit := fun progress =>
  if fault.isFatal then (.error fault, progress)
  else (.ok (), progress.report (introduction ++ fault.message))

/-! ## Declarations -/

/-- Enters the fields of a type and their categories. -/
def enterFields (registry : Registry) (type : String) (fields : List InspectedField)
    (vocabulary : Vocabulary) : Vocabulary :=
  fields.foldl (fun vocabulary field =>
    vocabulary.setFieldType (Vocabulary.fieldKey type field.name)
      (Category.ofType? registry field.declaredType))
    (vocabulary.setFields type (fields.map InspectedField.name))

/-- Enters an imported type as a fact type. A whole package adds nothing by itself. -/
def importType (archives : List Archive) (target : String) : Step Unit := fun progress =>
  if Name.isWildcard target then (.ok (), progress)
  else
    match loadFields archives target progress with
    | (.error fault, after) =>
      recover ("Error while inspecting the class: " ++ target ++ ". The error was: ") fault after
    | (.ok none, after) => (.ok (), after)
    | (.ok (some (type, fields)), after) =>
      (.ok (), after.edit fun vocabulary =>
        (enterFields after.registry type.shortName fields vocabulary).addFactType type.shortName)

/-- Enters the category of a template's field. A type that is not known is reported. -/
def enterTemplateField (scope : Scope) (archives : List Archive) (type : String)
    (field : Header.TemplateField) : Step Unit := fun progress =>
  let missing := "Fact template field type not found: " ++ field.typeName
  let enter (found : Option Descriptor) (after : Progress) : Progress :=
    after.edit fun vocabulary =>
      vocabulary.setFieldType (Vocabulary.fieldKey type field.name)
        (Category.ofType? after.registry found)
  match search archives (scope.resolve · field.typeName) progress with
  | (.ok (some found), after) => (.ok (), enter (some found) after)
  | (.ok none, after) => (.ok (), enter none (after.report missing))
  | (.error fault, after) =>
    if fault.isFatal then (.error fault, after)
    else (.ok (), enter none (after.report (missing ++ " (" ++ fault.message ++ ")")))

/-- Performs a step for each element of a list, up to the first that ends with a fault. -/
def forEach {α : Type} (step : α → Step Unit) : List α → Step Unit
  | [], progress => (.ok (), progress)
  | element :: elements, progress =>
    match step element progress with
    | (.error fault, after) => (.error fault, after)
    | (.ok (), after) => forEach step elements after

/-- Enters a template as a fact type. -/
def enterTemplate (scope : Scope) (archives : List Archive) (template : Header.Template) :
    Step Unit := fun progress =>
  let listed := progress.edit (·.addFactType template.name)
  match forEach (enterTemplateField scope archives template.name) template.fields listed with
  | (.error fault, after) => (.error fault, after)
  | (.ok (), after) =>
    (.ok (), after.edit (·.setFields template.name
      (template.fields.map Header.TemplateField.name)))

/-- Binds a global, whose type's fields are entered unless fields of that name are known. -/
def enterGlobal (scope : Scope) (archives : List Archive) (global : Header.Global) :
    Step Unit := fun progress =>
  let name := scope.qualify global.typeName
  let type := Name.short name
  let entered : Except Fault Unit × Progress :=
    if progress.vocabulary.hasFields type then (.ok (), progress)
    else
      match loadFields archives name progress with
      | (.error fault, after) =>
        recover ("Error while inspecting class for global: " ++ global.typeName ++
          " error message: ") fault after
      | (.ok none, after) => (.ok (), after)
      | (.ok (some (_, fields)), after) =>
        (.ok (), after.edit (enterFields after.registry type fields))
  match entered with
  | (.error fault, after) => (.error fault, after)
  | (.ok (), after) => (.ok (), after.edit (·.bindGlobal global.identifier type))

/-- Enters what a package declares: imports, then templates, then globals. -/
def enterPackage (archives : List Archive) (package : Header.Package) : Step Unit :=
  fun progress =>
    let scope : Scope := ⟨Imports.ofTargets package.imports, progress.settings⟩
    match forEach (importType archives) package.imports progress with
    | (.error fault, after) => (.error fault, after)
    | (.ok (), after) =>
      match forEach (enterTemplate scope archives) package.templates after with
      | (.error fault, after) => (.error fault, after)
      | (.ok (), after) => forEach (enterGlobal scope archives) package.globals after

/-- Enters a header, unless it is blank. -/
def enterHeader (archives : List Archive) (header : String) : Step Unit := fun progress =>
  if (Text.trim header.toList).isEmpty then (.ok (), progress)
  else
    match Header.Reading.ofText header with
    | .error fault => (.error fault, progress)
    | .ok reading =>
      enterPackage archives reading.package
        { progress with
          messages := progress.messages ++ reading.problems.map Header.Problem.message }

/-! ## Sentences -/

/-- Enters the sentence of an entry, if it belongs to conditions or actions. -/
def enterSentence (vocabulary : Vocabulary) (entry : Mapping.Entry) : Vocabulary :=
  match entry.kind with
  | .condition => vocabulary.addCondition entry.key
  | .consequence => vocabulary.addAction entry.key
  | .keyword | .any => vocabulary

/-- Enters the sentences of mapping files in order. -/
def enterSentences (files : List Mapping.File) (vocabulary : Vocabulary) : Vocabulary :=
  (files.flatMap Mapping.File.entries).foldl enterSentence vocabulary

/-! ## Builds -/

/-- Builds a vocabulary, and tells what becomes of the loader. -/
def build (loader : Loader) (header : String) (archives : List Archive)
    (files : List Mapping.File) : Except Fault Outcome × Loader :=
  match enterHeader archives header (.start loader) with
  | (.error fault, after) => (.error fault, after.loader)
  | (.ok (), after) =>
    let done := after.edit (enterSentences files)
    (.ok ⟨done.vocabulary, done.messages⟩, done.loader)

end Loader

end RuleVocabulary
