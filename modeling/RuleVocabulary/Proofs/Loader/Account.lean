import RuleVocabulary.Proofs.Loader.Trail

/-!
# Accounting for messages

Every message of a build that ends well has one cause, and messages stand in the order of their
causes. A step adds what its own declaration reports, judged by the registry in which the step
leaves the build (`messages_of_importType`, `messages_of_enterTemplateField`,
`messages_of_enterGlobal`). A sequence of steps adds what its passages report, one after the other
(`messages_of_forEach`).

Main statement: the messages of a build are those about its header, then those of its imports, of
the fields of its templates and of its globals, at most one for each (`messages_accounted_for`).
-/

set_option autoImplicit false

namespace RuleVocabulary.Loader

/-! ## Passages -/

/-- A step of a sequence: its element, and the states of the build before and behind it. -/
structure Passage (α : Type) where
  before : Progress
  element : α
  after : Progress

section Passages

variable {α : Type} {step : α → Step Unit}

/-- The steps that a sequence makes. -/
def passages (step : α → Step Unit) : List α → Progress → List (Passage α)
  | [], _ => []
  | element :: elements, progress =>
    ⟨progress, element, (step element progress).2⟩ ::
      passages step elements (step element progress).2

theorem map_element_passages (step : α → Step Unit) (elements : List α) (progress : Progress) :
    (passages step elements progress).map Passage.element = elements := by
  induction elements generalizing progress with
  | nil => rfl
  | cons element elements ih => rw [passages, List.map_cons, ih]

/-- **What each step adds to the messages, a sequence adds one after the other.** -/
theorem messages_of_forEach {report : Passage α → List String}
    (steps : ∀ element before after, step element before = (.ok (), after) →
      after.messages = before.messages ++ report ⟨before, element, after⟩)
    {elements : List α} {progress final : Progress}
    (done : forEach step elements progress = (.ok (), final)) :
    final.messages = progress.messages ++ (passages step elements progress).flatMap report := by
  induction elements generalizing progress with
  | nil =>
      cases done
      exact (List.append_nil _).symm
  | cons element elements ih =>
      rw [forEach_cons] at done
      split at done
      · cases done
      · rename_i after stepped
        have first := steps element progress after stepped
        rw [ih done, first, passages, stepped, List.flatMap_cons, List.append_assoc]

end Passages

/-! ## Reports -/

/-- What is reported of a type that is looked up by its name, with the given introduction to a fault
that is met on the way to its fields. -/
def typeReport (loader : Loader) (name introduction : String) : List String :=
  match typeFields loader.registry loader.settings name with
  | .error fault => [introduction ++ fault.message]
  | .ok none => ["Class not found: " ++ name]
  | .ok (some _) => []

/-- What an import reports. A whole package is not looked for. -/
def importReport (passage : Passage String) : List String :=
  if Name.isWildcard passage.element then []
  else
    typeReport passage.after.loader passage.element
      ("Error while inspecting the class: " ++ passage.element ++ ". The error was: ")

/-- What a field of a template reports. -/
def fieldReport (scope : Scope) (passage : Passage Header.TemplateField) : List String :=
  fieldMessages scope passage.after.registry passage.element

/-- What a global reports. Its type is not looked for where fields of that name are known. -/
def globalReport (scope : Scope) (passage : Passage Header.Global) : List String :=
  if passage.before.vocabulary.hasFields (Item.globalType scope passage.element) then []
  else
    typeReport passage.after.loader (scope.qualify passage.element.typeName)
      ("Error while inspecting class for global: " ++ passage.element.typeName ++
        " error message: ")

/-! ## At most one message for each declaration -/

theorem length_typeReport_le (loader : Loader) (name introduction : String) :
    (loader.typeReport name introduction).length ≤ 1 := by
  unfold typeReport
  split <;> simp

theorem typeReport_eq_nil_iff (loader : Loader) (name introduction : String) :
    loader.typeReport name introduction = [] ↔
      ∃ found, typeFields loader.registry loader.settings name = .ok (some found) := by
  unfold typeReport
  split <;> simp [*]

theorem length_importReport_le (passage : Passage String) : (importReport passage).length ≤ 1 := by
  unfold importReport
  split
  · exact Nat.zero_le 1
  · exact length_typeReport_le ..

/-- An import is silent if it covers a whole package, or names a type whose fields can be listed. -/
theorem importReport_eq_nil_iff (passage : Passage String) :
    importReport passage = [] ↔ Name.isWildcard passage.element = true ∨
      ∃ found, typeFields passage.after.registry passage.after.settings passage.element =
        .ok (some found) := by
  unfold importReport
  split
  · rename_i whole
    exact iff_of_true rfl (.inl whole)
  · rename_i single
    rw [or_iff_right single]
    exact typeReport_eq_nil_iff ..

theorem length_fieldReport_le (scope : Scope) (passage : Passage Header.TemplateField) :
    (fieldReport scope passage).length ≤ 1 := by
  unfold fieldReport fieldMessages
  split <;> simp

/-- A field of a template is silent if its type is found. -/
theorem fieldReport_eq_nil_iff (scope : Scope) (passage : Passage Header.TemplateField) :
    fieldReport scope passage = [] ↔
      ∃ type, scope.resolve passage.after.registry passage.element.typeName =
        .ok (some type) := by
  unfold fieldReport fieldMessages
  split <;> simp [*]

theorem length_globalReport_le (scope : Scope) (passage : Passage Header.Global) :
    (globalReport scope passage).length ≤ 1 := by
  unfold globalReport
  split
  · exact Nat.zero_le 1
  · exact length_typeReport_le ..

/-- A global is silent if fields of its type's name are known, or its type's fields can be
listed. -/
theorem globalReport_eq_nil_iff (scope : Scope) (passage : Passage Header.Global) :
    globalReport scope passage = [] ↔
      passage.before.vocabulary.hasFields (Item.globalType scope passage.element) = true ∨
        ∃ found, typeFields passage.after.registry passage.after.settings
          (scope.qualify passage.element.typeName) = .ok (some found) := by
  unfold globalReport
  split
  · rename_i known
    exact iff_of_true rfl (.inl known)
  · rename_i unknown
    rw [or_iff_right unknown]
    exact typeReport_eq_nil_iff ..

/-! ## What a step adds -/

variable {scope : Scope} {archives : List Archive}

/-- What an item has reported that did not fail. Its contribution is told by the registry left. -/
theorem messages_of_enterItem {item : Item} {progress after : Progress}
    (done : enterItem scope archives item progress = (.ok (), after)) :
    after.messages = progress.messages ++
      (item.contribution scope { after.loader with draft := progress.vocabulary }).messages := by
  obtain ⟨loader, searched, rfl⟩ := enterItem_eq_ok done
  have draft : loader.draft = progress.vocabulary := draft_of_searchedFor searched
  rw [← draft]
  rfl

theorem messages_typeContribution (loader : Loader) (name introduction : String)
    (edits : Descriptor → List InspectedField → List Vocabulary.Edit) :
    (typeContribution loader.registry loader.settings name introduction edits).messages =
      loader.typeReport name introduction := by
  unfold typeContribution typeReport
  split <;> simp [*]

theorem messages_of_importType (target : String) (before after : Progress)
    (done : importType archives target before = (.ok (), after)) :
    after.messages = before.messages ++ importReport ⟨before, target, after⟩ := by
  cases whole : Name.isWildcard target with
  | true =>
      rw [importType, if_pos whole] at done
      cases done
      rw [importReport, if_pos whole, List.append_nil]
  | false =>
      rw [@importType_eq ⟨.none, before.settings⟩ archives target whole] at done
      rw [messages_of_enterItem done, importReport, if_neg (by simp [whole])]
      exact congrArg _ (messages_typeContribution after.loader target _ _)

theorem messages_of_enterTemplateField {type : String} (field : Header.TemplateField)
    (before after : Progress)
    (done : enterTemplateField scope archives type field before = (.ok (), after)) :
    after.messages = before.messages ++ fieldReport scope ⟨before, field, after⟩ := by
  rw [enterTemplateField_eq] at done
  simp only [messages_of_enterItem done, Item.contribution, fieldReport, Progress.registry]

theorem messages_of_enterGlobal (global : Header.Global) (before after : Progress)
    (done : enterGlobal scope archives global before = (.ok (), after)) :
    after.messages = before.messages ++ globalReport scope ⟨before, global, after⟩ := by
  rw [enterGlobal_eq] at done
  rw [messages_of_enterItem done, globalReport]
  refine congrArg _ ?_
  by_cases known : before.vocabulary.hasFields (Item.globalType scope global)
  · simp only [Item.contribution, if_pos known]
  · simp only [Item.contribution, if_neg known]
    exact messages_typeContribution after.loader (scope.qualify global.typeName) _ _

/-- The fields of a template, each with the states of the build before and behind it. -/
def templatePassages (scope : Scope) (archives : List Archive)
    (passage : Passage Header.Template) : List (Passage Header.TemplateField) :=
  passages (enterTemplateField scope archives passage.element.name) passage.element.fields
    (passage.before.edit (·.addFactType passage.element.name))

theorem messages_of_enterTemplate (template : Header.Template) (before after : Progress)
    (done : enterTemplate scope archives template before = (.ok (), after)) :
    after.messages = before.messages ++
      (templatePassages scope archives ⟨before, template, after⟩).flatMap (fieldReport scope) := by
  unfold enterTemplate at done
  simp only at done
  split at done
  · cases done
  · rename_i between entered
    cases done
    exact messages_of_forEach messages_of_enterTemplateField entered

/-! ## Builds -/

section Package

variable (archives : List Archive) (package : Header.Package) (progress : Progress)

/-- The imports of a package, each with the states of the build before and behind it. -/
def importPassages : List (Passage String) :=
  passages (importType archives) package.imports progress

/-- The fields of the templates of a package, each with the states before and behind it. -/
def fieldPassages : List (Passage Header.TemplateField) :=
  let scope := packageScope progress.settings package
  (passages (enterTemplate scope archives) package.templates
    (importsEntered archives package progress)).flatMap (templatePassages scope archives)

/-- The globals of a package, each with the states of the build before and behind it. -/
def globalPassages : List (Passage Header.Global) :=
  passages (enterGlobal (packageScope progress.settings package) archives) package.globals
    (templatesEntered archives package progress)

/-- The fields are passed in the order in which the templates declare them. -/
theorem map_element_fieldPassages :
    (fieldPassages archives package progress).map Passage.element =
      package.templates.flatMap Header.Template.fields := by
  have own : ∀ passage : Passage Header.Template,
      (templatePassages (packageScope progress.settings package) archives passage).map
        Passage.element = passage.element.fields :=
    fun passage => map_element_passages _ _ _
  have templates := map_element_passages
    (enterTemplate (packageScope progress.settings package) archives) package.templates
    (importsEntered archives package progress)
  conv_rhs => rw [← templates, List.flatMap_map]
  simp only [fieldPassages, List.map_flatMap, own]

end Package

/-- A header that is not blank declares what is read from it. -/
theorem declared_of_written {header : String} (written : Text.trim header.toList ≠ []) :
    declared header = Header.Reading.ofText header :=
  if_neg (by rwa [List.isEmpty_iff])

/-- **Every message of a build is accounted for.** They are those about the header, word for word;
then, for each import of a single type, one message unless the type is found and its fields can be
listed; then, for each field of a template, one message unless its type is found; then, for each
global, at most one message, and none if fields of its type's name were known before. Whether a type
is found is judged by the registry in which the step leaves the build, that is, past the expansion
that the step may have made. -/
theorem messages_accounted_for (loader : Loader) (header : String) (archives : List Archive)
    (files : List Mapping.File) (outcome : Outcome) (written : Text.trim header.toList ≠ [])
    (built : (loader.build header archives files).1 = .ok outcome) :
    ∃ reading, Header.Reading.ofText header = .ok reading ∧
      let package := reading.package
      let scope := packageScope loader.settings package
      let imports := importPassages archives package (begun loader reading)
      let fields := fieldPassages archives package (begun loader reading)
      let globals := globalPassages archives package (begun loader reading)
      outcome.messages =
        reading.problems.map Header.Problem.message ++ imports.flatMap importReport ++
          fields.flatMap (fieldReport scope) ++ globals.flatMap (globalReport scope) ∧
      imports.map Passage.element = package.imports ∧
      fields.map Passage.element = package.templates.flatMap Header.Template.fields ∧
      globals.map Passage.element = package.globals ∧
      (∀ passage ∈ imports, (importReport passage).length ≤ 1 ∧
        (importReport passage = [] ↔ Name.isWildcard passage.element = true ∨
          ∃ found, typeFields passage.after.registry passage.after.settings passage.element =
            .ok (some found))) ∧
      (∀ passage ∈ fields, (fieldReport scope passage).length ≤ 1 ∧
        (fieldReport scope passage = [] ↔
          ∃ type, scope.resolve passage.after.registry passage.element.typeName =
            .ok (some type))) ∧
      ∀ passage ∈ globals, (globalReport scope passage).length ≤ 1 ∧
        (passage.before.vocabulary.hasFields (Item.globalType scope passage.element) = true →
          globalReport scope passage = []) := by
  obtain ⟨reading, final, read, imported, templated, bound, rfl⟩ := stages_of_build built
  rw [declared_of_written written] at read
  refine ⟨reading, read, ?_⟩
  intro package scope imports fields globals
  have first := messages_of_forEach messages_of_importType imported
  have second := @messages_of_forEach _ _
    (fun passage => (templatePassages scope archives passage).flatMap (fieldReport scope))
    messages_of_enterTemplate _ _ _ templated
  have third := messages_of_forEach messages_of_enterGlobal bound
  refine ⟨?_, ?_, ?_, ?_, ?_, ?_, ?_⟩
  · show final.messages = _
    rw [third, second, first, ← List.flatMap_assoc]
    rfl
  · exact map_element_passages _ _ _
  · exact map_element_fieldPassages _ _ _
  · exact map_element_passages _ _ _
  · exact fun passage _ => ⟨length_importReport_le passage, importReport_eq_nil_iff passage⟩
  · exact fun passage _ =>
      ⟨length_fieldReport_le scope passage, fieldReport_eq_nil_iff scope passage⟩
  · intro passage _
    refine ⟨length_globalReport_le scope passage, ?_⟩
    intro known
    exact (globalReport_eq_nil_iff scope passage).mpr (.inl known)

/-- A header with something wrong in every part. -/
def troubled : String :=
  "import a.*;\nimport a.Gone;\n???\ntemplate T\n Gone x\n int y\nend\nglobal Gone g;\nglobal T t;"

theorem troubled_header_is_accounted_for :
    ∃ outcome reading,
      ((ofSettings .default).build troubled [] []).1 = .ok outcome ∧
      Header.Reading.ofText troubled = .ok reading ∧
      (let package := reading.package
      let scope := packageScope .default package
      let start := begun (ofSettings .default) reading
      outcome.messages =
        reading.problems.map Header.Problem.message ++
          (importPassages [] package start).flatMap importReport ++
          (fieldPassages [] package start).flatMap (fieldReport scope) ++
          (globalPassages [] package start).flatMap (globalReport scope)) ∧
      outcome.messages =
        ["line 3:1 unrecognized statement in package header: '???'", "Class not found: a.Gone",
          "Fact template field type not found: Gone", "Class not found: a.Gone"] := by
  have messages : ((ofSettings .default).build troubled [] []).1.map Outcome.messages =
      .ok ["line 3:1 unrecognized statement in package header: '???'", "Class not found: a.Gone",
        "Fact template field type not found: Gone", "Class not found: a.Gone"] := by
    decide +kernel
  cases built : ((ofSettings .default).build troubled [] []).1 with
  | error fault =>
      rw [built] at messages
      cases messages
  | ok outcome =>
      rw [built] at messages
      obtain ⟨reading, read, account, -⟩ :=
        messages_accounted_for (ofSettings .default) troubled [] [] outcome (by decide) built
      exact ⟨outcome, reading, rfl, read, account, Except.ok.inj messages⟩

end RuleVocabulary.Loader
