import RuleVocabulary.Proofs.Inspection
import RuleVocabulary.Proofs.Loader.Search

/-!
# A build, item by item

A package is a sequence of items: its imports, the beginnings, fields and ends of its templates,
and its globals. An item makes a build look for at most one type. What it contributes then, edits
of the vocabulary and messages, follows from the loader as the search leaves it and from nothing
else (`enterItem`).

A build enters the items of its package one after the other (`enterPackage_eq`, `build_eq`), so
what holds of an item passes to builds by induction on the sequence.
-/

set_option autoImplicit false

namespace RuleVocabulary.Loader

/-! ## Contributions -/

/-- What is added to a build. -/
structure Contribution where
  edits : List Vocabulary.Edit
  messages : List String

/-- Adds a contribution. -/
def Progress.add (progress : Progress) (contribution : Contribution) : Progress where
  loader := { progress.loader with
    draft := contribution.edits.foldl Vocabulary.edit progress.loader.draft }
  messages := progress.messages ++ contribution.messages

/-- A type and its fields, looked up by name. -/
def typeFields (registry : Registry) (settings : Settings) (name : String) :
    Except Fault (Option (Descriptor × List InspectedField)) :=
  match registry.lookup name with
  | .error fault => .error fault
  | .ok none => .ok none
  | .ok (some type) =>
    match Inspection.fields registry settings type with
    | .error fault => .error fault
    | .ok fields => .ok (some (type, fields))

/-- The edits that enter the fields of a type and their categories. -/
def fieldEdits (registry : Registry) (type : String) (fields : List InspectedField) :
    List Vocabulary.Edit :=
  .fields type (fields.map InspectedField.name) :: fields.map fun field =>
    .fieldType (Vocabulary.fieldKey type field.name) (Category.ofType? registry field.declaredType)

/-- What a type contributes that was looked up by name: the edits made for it, or a message. -/
def typeContribution (registry : Registry) (settings : Settings) (name introduction : String)
    (edits : Descriptor → List InspectedField → List Vocabulary.Edit) : Contribution :=
  match typeFields registry settings name with
  | .error fault => ⟨[], [introduction ++ fault.message]⟩
  | .ok none => ⟨[], ["Class not found: " ++ name]⟩
  | .ok (some (type, fields)) => ⟨edits type fields, []⟩

/-- The category of a template's field. -/
def fieldCategory (scope : Scope) (registry : Registry) (field : Header.TemplateField) :
    Category :=
  match scope.resolve registry field.typeName with
  | .error _ => .unknown
  | .ok found => Category.ofType? registry found

/-- The messages about the type of a template's field. -/
def fieldMessages (scope : Scope) (registry : Registry) (field : Header.TemplateField) :
    List String :=
  match scope.resolve registry field.typeName with
  | .error fault =>
    ["Fact template field type not found: " ++ field.typeName ++ " (" ++ fault.message ++ ")"]
  | .ok none => ["Fact template field type not found: " ++ field.typeName]
  | .ok (some _) => []

/-! ## Items -/

/-- A part of a package that is entered at one go. -/
inductive Item where
  | imported (target : String)
  | templateBegun (name : String)
  | templateField (type : String) (field : Header.TemplateField)
  | templateEnded (name : String) (fields : List String)
  | bound (global : Header.Global)

namespace Item

/-- The items of a template. -/
def ofTemplate (template : Header.Template) : List Item :=
  .templateBegun template.name :: template.fields.map (.templateField template.name) ++
    [.templateEnded template.name (template.fields.map Header.TemplateField.name)]

/-- The imports and templates of a package. -/
def ofDeclarations (package : Header.Package) : List Item :=
  (package.imports.filter (!Name.isWildcard ·)).map .imported ++
    package.templates.flatMap ofTemplate

/-- The items of a package in order. -/
def ofPackage (package : Header.Package) : List Item :=
  ofDeclarations package ++ package.globals.map .bound

/-- The short name of a global's type. -/
def globalType (scope : Scope) (global : Header.Global) : String :=
  Name.short (scope.qualify global.typeName)

/-- What an item makes a build look for. The type of a global is not looked for once fields of its
short name are known. -/
def find? (scope : Scope) (vocabulary : Vocabulary) :
    Item → Option (Registry → Except Fault (Option Descriptor))
  | imported target => some (·.lookup target)
  | templateField _ field => some (scope.resolve · field.typeName)
  | bound global =>
    if vocabulary.hasFields (globalType scope global) then none
    else some (·.lookup (scope.qualify global.typeName))
  | templateBegun _ | templateEnded .. => none

/-- Whether the type that an item makes a build look for is not known. -/
def Missing (scope : Scope) (loader : Loader) (item : Item) : Prop :=
  ∃ find, item.find? scope loader.draft = some find ∧ find loader.registry = .ok none

/-- What an item contributes, given the loader as its search leaves it. -/
def contribution (scope : Scope) (loader : Loader) : Item → Contribution
  | imported target =>
    typeContribution loader.registry loader.settings target
      ("Error while inspecting the class: " ++ target ++ ". The error was: ")
      fun type fields =>
        fieldEdits loader.registry type.shortName fields ++ [.factType type.shortName]
  | templateBegun name => ⟨[.factType name], []⟩
  | templateField type field =>
    ⟨[.fieldType (Vocabulary.fieldKey type field.name) (fieldCategory scope loader.registry field)],
      fieldMessages scope loader.registry field⟩
  | templateEnded name fields => ⟨[.fields name fields], []⟩
  | bound global =>
    let type := globalType scope global
    let entered : Contribution :=
      if loader.draft.hasFields type then ⟨[], []⟩
      else
        typeContribution loader.registry loader.settings (scope.qualify global.typeName)
          ("Error while inspecting class for global: " ++ global.typeName ++ " error message: ")
          fun _ fields => fieldEdits loader.registry type fields
    ⟨entered.edits ++ [.global global.identifier type], entered.messages⟩

end Item

/-- Where the names in a package are resolved. -/
def packageScope (settings : Settings) (package : Header.Package) : Scope :=
  ⟨Imports.ofTargets package.imports, settings⟩

/-- The loader as an item's search leaves it. -/
def searchedFor (scope : Scope) (archives : List Archive) (loader : Loader) (item : Item) :
    Except Fault Loader :=
  match item.find? scope loader.draft with
  | none => .ok loader
  | some find => loader.searched archives find

theorem draft_of_searchedFor {scope : Scope} {archives : List Archive} {loader after : Loader}
    {item : Item} (done : searchedFor scope archives loader item = .ok after) :
    after.draft = loader.draft := by
  unfold searchedFor at done
  split at done
  · cases done
    rfl
  · exact draft_of_searched done

/-- Enters an item: searches, then adds what the item contributes. -/
def enterItem (scope : Scope) (archives : List Archive) (item : Item) : Step Unit :=
  fun progress =>
    match searchedFor scope archives progress.loader item with
    | .error fault => (.error fault, progress)
    | .ok loader => (.ok (), { progress with loader := loader }.add (item.contribution scope loader))

variable {scope : Scope} {archives : List Archive}

/-- An item that does not fail has made its search, and has contributed. -/
theorem enterItem_eq_ok {item : Item} {progress after : Progress}
    (done : enterItem scope archives item progress = (.ok (), after)) :
    ∃ loader, searchedFor scope archives progress.loader item = .ok loader ∧
      after = { progress with loader := loader }.add (item.contribution scope loader) := by
  unfold enterItem at done
  split at done
  · cases done
  · rename_i loader searched
    cases done
    exact ⟨loader, searched, rfl⟩

/-! ## Declarations as items -/

theorem isFatal_of_typeFields {registry : Registry} {settings : Settings} {name : String}
    {fault : Fault} (failed : typeFields registry settings name = .error fault) :
    fault.isFatal = false := by
  unfold typeFields at failed
  split at failed
  · rename_i known
    cases failed
    exact Registry.isFatal_of_lookup known
  · cases failed
  · split at failed
    · rename_i listed
      cases failed
      exact Inspection.isFatal_of_fields listed
    · cases failed

theorem enterFields_eq (registry : Registry) (type : String) (fields : List InspectedField)
    (vocabulary : Vocabulary) :
    enterFields registry type fields vocabulary =
      (fieldEdits registry type fields).foldl Vocabulary.edit vocabulary := by
  rw [fieldEdits, List.foldl_cons, List.foldl_map]
  rfl

/-- Looking up a type and its fields answers what the registry left by the search answers. -/
theorem loadFields_eq (archives : List Archive) (name : String) (progress : Progress) :
    loadFields archives name progress =
      match progress.loader.searched archives (·.lookup name) with
      | .error fault => (.error fault, progress)
      | .ok loader =>
        let after := { progress with loader := loader }
        match typeFields loader.registry loader.settings name with
        | .error fault => (.error fault, after)
        | .ok none => (.ok none, after.report ("Class not found: " ++ name))
        | .ok (some found) => (.ok (some found), after) := by
  rw [loadFields, loadType, search_eq]
  cases progress.loader.searched archives (·.lookup name) with
  | error fault => rfl
  | ok loader =>
      simp only [typeFields]
      cases loader.registry.lookup name with
      | error fault => rfl
      | ok found =>
          cases found with
          | none => rfl
          | some type =>
              simp only [Progress.registry, Progress.settings]
              cases Inspection.fields loader.registry loader.settings type <;> rfl

theorem importType_eq {target : String} (single : Name.isWildcard target = false) :
    importType archives target = enterItem scope archives (.imported target) := by
  funext progress
  simp only [importType, single, Bool.false_eq_true, ↓reduceIte, loadFields_eq, enterItem,
    searchedFor, Item.find?]
  cases found : progress.loader.searched archives (·.lookup target) with
  | error fault => simp only [recover, (isFatal_of_searched found).1, ↓reduceIte]
  | ok loader =>
      simp only [Item.contribution, typeContribution]
      cases listed : typeFields loader.registry loader.settings target with
      | error fault =>
          simp only [recover, isFatal_of_typeFields listed, Bool.false_eq_true, ↓reduceIte]
          rfl
      | ok found =>
          cases found with
          | none => rfl
          | some entry =>
              simp only [Progress.edit, Progress.add, Progress.registry, List.foldl_append,
                enterFields_eq, List.append_nil]
              rfl

theorem enterTemplateField_eq (type : String) (field : Header.TemplateField) :
    enterTemplateField scope archives type field =
      enterItem scope archives (.templateField type field) := by
  funext progress
  simp only [enterTemplateField, search_eq, enterItem, searchedFor, Item.find?]
  cases found : progress.loader.searched archives (scope.resolve · field.typeName) with
  | error fault => simp only [(isFatal_of_searched found).1, ↓reduceIte]
  | ok loader =>
      simp only [Item.contribution, fieldCategory, fieldMessages]
      cases resolved : scope.resolve loader.registry field.typeName with
      | error fault =>
          simp only [Scope.isFatal_of_resolve resolved, Bool.false_eq_true, ↓reduceIte]
          rfl
      | ok known =>
          cases known with
          | none => rfl
          | some type =>
              simp only [Progress.edit, Progress.add, Progress.registry, List.append_nil]
              rfl

theorem enterGlobal_eq (global : Header.Global) :
    enterGlobal scope archives global = enterItem scope archives (.bound global) := by
  funext progress
  simp only [enterGlobal, enterItem, searchedFor, Item.find?, Item.contribution, Item.globalType,
    Progress.vocabulary]
  by_cases known : progress.loader.draft.hasFields (Name.short (scope.qualify global.typeName))
  · simp only [known, ↓reduceIte, Progress.edit, Progress.add, List.nil_append, List.append_nil]
    rfl
  · simp only [known, Bool.false_eq_true, ↓reduceIte, loadFields_eq]
    cases found : progress.loader.searched archives (·.lookup (scope.qualify global.typeName)) with
    | error fault => simp only [recover, (isFatal_of_searched found).1, ↓reduceIte]
    | ok loader =>
        simp only [draft_of_searched found, known, Bool.false_eq_true, ↓reduceIte,
          typeContribution]
        cases listed : typeFields loader.registry loader.settings
            (scope.qualify global.typeName) with
        | error fault =>
            simp only [recover, isFatal_of_typeFields listed, Bool.false_eq_true, ↓reduceIte]
            rfl
        | ok found =>
            cases found with
            | none => rfl
            | some entry =>
                simp only [Progress.edit, Progress.add, Progress.registry, List.foldl_append,
                  enterFields_eq, List.append_nil]
                rfl

/-! ## Sequences of steps -/

theorem forEach_cons {α : Type} (step : α → Step Unit) (element : α) (elements : List α)
    (progress : Progress) :
    forEach step (element :: elements) progress =
      match step element progress with
      | (.error fault, after) => (.error fault, after)
      | (.ok (), after) => forEach step elements after :=
  rfl

theorem forEach_append {α : Type} (step : α → Step Unit) (first second : List α)
    (progress : Progress) :
    forEach step (first ++ second) progress =
      match forEach step first progress with
      | (.error fault, after) => (.error fault, after)
      | (.ok (), after) => forEach step second after := by
  induction first generalizing progress with
  | nil => rfl
  | cons element first ih =>
      rw [List.cons_append, forEach_cons, forEach_cons]
      split
      · rfl
      · exact ih _

theorem forEach_map {α β : Type} (step : β → Step Unit) (make : α → β) (elements : List α)
    (progress : Progress) :
    forEach step (elements.map make) progress =
      forEach (fun element => step (make element)) elements progress := by
  induction elements generalizing progress with
  | nil => rfl
  | cons element elements ih =>
      rw [List.map_cons, forEach_cons, forEach_cons]
      split
      · rfl
      · exact ih _

theorem forEach_flatMap {α β : Type} (step : β → Step Unit) (make : α → List β)
    (elements : List α) (progress : Progress) :
    forEach step (elements.flatMap make) progress =
      forEach (fun element => forEach step (make element)) elements progress := by
  induction elements generalizing progress with
  | nil => rfl
  | cons element elements ih =>
      rw [List.flatMap_cons, forEach_append, forEach_cons]
      split
      · rfl
      · exact ih _

/-! ## Packages as items -/

/-- An item that makes a build look for nothing contributes at once. -/
theorem enterItem_of_unsought {item : Item} {progress : Progress}
    (unsought : item.find? scope progress.loader.draft = none) :
    enterItem scope archives item progress =
      (.ok (), progress.add (item.contribution scope progress.loader)) := by
  simp only [enterItem, searchedFor, unsought]

theorem enterTemplate_eq (template : Header.Template) :
    enterTemplate scope archives template =
      forEach (enterItem scope archives) (Item.ofTemplate template) := by
  funext progress
  have begun : enterItem scope archives (.templateBegun template.name) progress =
      (.ok (), progress.edit (·.addFactType template.name)) := by
    rw [enterItem_of_unsought rfl]
    simp only [Item.contribution, Progress.add, List.append_nil]
    rfl
  have ended : ∀ after : Progress, forEach (enterItem scope archives)
        [.templateEnded template.name (template.fields.map Header.TemplateField.name)] after =
      (.ok (), after.edit (·.setFields template.name
        (template.fields.map Header.TemplateField.name))) := by
    intro after
    rw [forEach_cons, enterItem_of_unsought rfl]
    simp only [Item.contribution, Progress.add, List.append_nil]
    rfl
  have fields : enterTemplateField scope archives template.name =
      fun field => enterItem scope archives (.templateField template.name field) :=
    funext (enterTemplateField_eq template.name)
  rw [enterTemplate, fields, Item.ofTemplate, List.cons_append, forEach_cons, begun]
  simp only [forEach_append, forEach_map]
  rcases forEach (fun field => enterItem scope archives (.templateField template.name field))
    template.fields (progress.edit (·.addFactType template.name)) with ⟨fault | done, after⟩
  · rfl
  · exact (ended after).symm

theorem forEach_importType (targets : List String) (progress : Progress) :
    forEach (importType archives) targets progress =
      forEach (enterItem scope archives)
        ((targets.filter (!Name.isWildcard ·)).map .imported) progress := by
  induction targets generalizing progress with
  | nil => rfl
  | cons target targets ih =>
      cases whole : Name.isWildcard target with
      | true =>
          rw [List.filter_cons_of_neg (by simp [whole]), forEach_cons, ← ih]
          simp only [importType, whole, ↓reduceIte]
      | false =>
          rw [List.filter_cons_of_pos (by simp [whole]), List.map_cons, forEach_cons, forEach_cons,
            @importType_eq scope archives target whole]
          split
          · rfl
          · exact ih _

/-- **A package is entered item by item.** -/
theorem enterPackage_eq (archives : List Archive) (package : Header.Package)
    (progress : Progress) :
    enterPackage archives package progress =
      forEach (enterItem (packageScope progress.settings package) archives)
        (Item.ofPackage package) progress := by
  have templates : enterTemplate (packageScope progress.settings package) archives =
      fun template => forEach (enterItem (packageScope progress.settings package) archives)
        (Item.ofTemplate template) :=
    funext enterTemplate_eq
  have globals : enterGlobal (packageScope progress.settings package) archives =
      fun global => enterItem (packageScope progress.settings package) archives (.bound global) :=
    funext enterGlobal_eq
  rw [Item.ofPackage, Item.ofDeclarations, forEach_append, forEach_append, ← forEach_importType]
  simp only [forEach_flatMap, forEach_map, ← templates, ← globals]
  unfold enterPackage
  rcases forEach (importType archives) package.imports progress with ⟨_ | _, after⟩
  · rfl
  · rfl

/-! ## Builds -/

/-- What a header declares. A blank one declares nothing. -/
def declared (header : String) : Except Fault Header.Reading :=
  if (Text.trim header.toList).isEmpty then .ok ⟨⟨none, [], [], [], []⟩, []⟩
  else Header.Reading.ofText header

/-- A build that has read its header. -/
def begun (loader : Loader) (reading : Header.Reading) : Progress :=
  ⟨loader.cleared, reading.problems.map Header.Problem.message⟩

/-- A build with the items of its package entered, or broken off at a fault. -/
def entered (loader : Loader) (archives : List Archive) (reading : Header.Reading) :
    Except Fault Unit × Progress :=
  forEach (enterItem (packageScope loader.settings reading.package) archives)
    (Item.ofPackage reading.package) (begun loader reading)

theorem enterHeader_eq (archives : List Archive) (header : String) (loader : Loader) :
    enterHeader archives header (.start loader) =
      match declared header with
      | .error fault => (.error fault, .start loader)
      | .ok reading => entered loader archives reading := by
  unfold enterHeader declared
  split
  · rfl
  · cases Header.Reading.ofText header with
    | error fault => rfl
    | ok reading => exact enterPackage_eq archives reading.package _

/-- **A build enters the items of its package one after the other, then the sentences.** -/
theorem build_eq (loader : Loader) (header : String) (archives : List Archive)
    (files : List Mapping.File) :
    loader.build header archives files =
      match declared header with
      | .error fault => (.error fault, loader.cleared)
      | .ok reading =>
        match entered loader archives reading with
        | (.error fault, after) => (.error fault, after.loader)
        | (.ok (), after) =>
          (.ok ⟨enterSentences files after.vocabulary, after.messages⟩,
            (after.edit (enterSentences files)).loader) := by
  rw [build, enterHeader_eq]
  cases declared header with
  | error fault => rfl
  | ok reading => rfl

/-- A build whose items are all entered ends well. -/
theorem build_of_entered {loader : Loader} {header : String} {reading : Header.Reading}
    {after : Progress} (read : declared header = .ok reading)
    (done : entered loader archives reading = (.ok (), after)) (files : List Mapping.File) :
    loader.build header archives files =
      (.ok ⟨enterSentences files after.vocabulary, after.messages⟩,
        (after.edit (enterSentences files)).loader) := by
  rw [build_eq, read]
  simp only [done]

/-- A build that ends well has entered all its items. -/
theorem entered_of_build {loader : Loader} {header : String} {files : List Mapping.File}
    {outcome : Outcome} (built : (loader.build header archives files).1 = .ok outcome) :
    ∃ reading after, declared header = .ok reading ∧
      entered loader archives reading = (.ok (), after) ∧
      outcome = ⟨enterSentences files after.vocabulary, after.messages⟩ := by
  rw [build_eq] at built
  cases read : declared header with
  | error fault =>
      rw [read] at built
      cases built
  | ok reading =>
      simp only [read] at built
      split at built
      · cases built
      · rename_i after done
        cases built
        exact ⟨reading, after, rfl, done, rfl⟩

/-! ## Sentences -/

/-- The sentences of one section in mapping files, in order. -/
def sentencesOf (kind : Mapping.Section) (files : List Mapping.File) : List String :=
  files.flatMap (·.sentences kind)

/-- **Mapping files add the sentences of their two sections, and nothing else.** -/
theorem enterSentences_eq (files : List Mapping.File) (vocabulary : Vocabulary) :
    enterSentences files vocabulary =
      { vocabulary with
        conditionSentences := vocabulary.conditionSentences ++ sentencesOf .condition files
        actionSentences := vocabulary.actionSentences ++ sentencesOf .consequence files } := by
  have listed : ∀ kind, sentencesOf kind files =
      ((files.flatMap Mapping.File.entries).filter (·.kind = kind)).map Mapping.Entry.key := by
    intro kind
    rw [List.filter_flatMap, List.map_flatMap]
    rfl
  rw [enterSentences, listed, listed]
  induction files.flatMap Mapping.File.entries generalizing vocabulary with
  | nil => simp
  | cons entry entries ih =>
      rw [List.foldl_cons, ih]
      cases kind : entry.kind <;>
        simp [enterSentence, kind, Vocabulary.addCondition, Vocabulary.addAction]

/-- Sentences leave the types, the fields and their categories as they are. -/
theorem frame_enterSentences (files : List Mapping.File) (vocabulary : Vocabulary) :
    (enterSentences files vocabulary).factTypes = vocabulary.factTypes ∧
      (enterSentences files vocabulary).fields = vocabulary.fields ∧
      (enterSentences files vocabulary).fieldTypes = vocabulary.fieldTypes := by
  rw [enterSentences_eq]
  exact ⟨rfl, rfl, rfl⟩

end RuleVocabulary.Loader
