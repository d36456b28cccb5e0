import RuleVocabulary.Proofs.Loader.Course

/-!
# Who enters what

An item makes edits of types, and behind them a global binds itself (`exists_edits_eq`).

The categories in a vocabulary are entered by imports, by fields of templates and by globals. The
fields of templates decide the keys that are made of the template's name and theirs
(`decided_templates_iff`). A global decides the keys of its type's fields, if it is the one that
enters these (`entersFields_globals`). Such a type is told from the others in the end: it has fields
and is no fact type (`decides_globals_iff`), since the declarations before the globals give fields to
exactly the fact types (`factTypes_iff_hasFields`).
-/

set_option autoImplicit false

namespace RuleVocabulary.Loader

variable {scope : Scope} {loader : Loader}

/-! ## Edits of single items -/

/-- What is found under a name has its short name. -/
theorem shortName_of_typeFields {registry : Registry} {settings : Settings} {name : String}
    {type : Descriptor} {fields : List InspectedField}
    (found : typeFields registry settings name = .ok (some (type, fields))) :
    type.shortName = Name.short name := by
  unfold typeFields at found
  split at found
  · cases found
  · cases found
  · rename_i known
    split at found
    · cases found
    · cases found
      exact congrArg Name.short (Registry.name_of_lookup known)

/-- The edits for a type that is looked up are made for the type of that name, or none are. -/
theorem edits_typeContribution (registry : Registry) (settings : Settings)
    (name introduction : String) (edits : Descriptor → List InspectedField → List Vocabulary.Edit) :
    (typeContribution registry settings name introduction edits).edits = [] ∨
      ∃ type fields, type.shortName = Name.short name ∧
        (typeContribution registry settings name introduction edits).edits = edits type fields := by
  unfold typeContribution
  split
  · exact .inl rfl
  · exact .inl rfl
  · rename_i found
    exact .inr ⟨_, _, shortName_of_typeFields found, rfl⟩

theorem fields_foldl_fieldEdits (registry : Registry) (type : String)
    (fields : List InspectedField) (vocabulary : Vocabulary) :
    let entered := (fieldEdits registry type fields).foldl Vocabulary.edit vocabulary
    entered.fields = vocabulary.fields.insert type (fields.map InspectedField.name) ∧
      entered.factTypes = vocabulary.factTypes := by
  have later : ∀ vocabulary : Vocabulary,
      let entered := (fields.map fun field =>
          Vocabulary.Edit.fieldType (Vocabulary.fieldKey type field.name)
            (Category.ofType? registry field.declaredType)).foldl Vocabulary.edit vocabulary
      entered.fields = vocabulary.fields ∧ entered.factTypes = vocabulary.factTypes := by
    induction fields with
    | nil => exact fun _ => ⟨rfl, rfl⟩
    | cons field fields ih => exact fun vocabulary => ih _
  exact later _

theorem decides_fieldEdits_iff (registry : Registry) (type : String)
    (fields : List InspectedField) (key : String) :
    (∃ edit ∈ fieldEdits registry type fields, edit.Decides key) ↔
      ∃ name ∈ fields.map InspectedField.name, Vocabulary.fieldKey type name = key := by
  simp only [fieldEdits, List.mem_cons, List.mem_map, exists_eq_or_imp, exists_exists_and_eq_and,
    Vocabulary.Edit.Decides, false_or]

/-- An import enters the fields of the type of its short name, and the type behind them, or
nothing. -/
theorem edits_imported (loader : Loader) (target : String) :
    ((Item.imported target).contribution scope loader).edits = [] ∨
      ∃ fields, ((Item.imported target).contribution scope loader).edits =
        fieldEdits loader.registry (Name.short target) fields ++
          [.factType (Name.short target)] := by
  rcases edits_typeContribution loader.registry loader.settings target
    ("Error while inspecting the class: " ++ target ++ ". The error was: ")
    (fun type fields => fieldEdits loader.registry type.shortName fields ++
      [.factType type.shortName]) with silent | ⟨type, fields, short, entered⟩
  · exact .inl silent
  · exact .inr ⟨fields, short ▸ entered⟩

/-! ## Decided keys -/

/-- Whether an item decides the category under a key. -/
def Decided (scope : Scope) (loader : Loader) (items : List Item) (key : String) : Prop :=
  ∃ item ∈ items, ∃ edit ∈ (item.contribution scope loader).edits, edit.Decides key

theorem decided_cons_iff {item : Item} {items : List Item} {key : String} :
    Decided scope loader (item :: items) key ↔
      (∃ edit ∈ (item.contribution scope loader).edits, edit.Decides key) ∨
        Decided scope loader items key := by
  simp only [Decided, List.mem_cons, exists_eq_or_imp]

theorem decides_course_iff {first second : Loader} (same : first.cleared = second.cleared)
    {items : List Item} (declared : ∀ item ∈ items, item.Declared) (key : String) :
    (∃ edit ∈ (course scope first items).edits, edit.Decides key) ↔
      Decided scope second items key := by
  rw [edits_course same declared]
  constructor
  · rintro ⟨edit, member, decides⟩
    obtain ⟨item, listed, made⟩ := List.mem_flatMap.mp member
    exact ⟨item, listed, edit, made, decides⟩
  · rintro ⟨item, listed, edit, made, decides⟩
    exact ⟨edit, List.mem_flatMap.mpr ⟨item, listed, made⟩, decides⟩

/-! ## Templates -/

/-- Whether a field of a template is entered under a key. -/
def EntersField (items : List Item) (key : String) : Prop :=
  ∃ type field, .templateField type field ∈ items ∧ Vocabulary.fieldKey type field.name = key

/-- Whether an item is a part of a template. -/
def Item.OfTemplate : Item → Prop
  | .imported _ | .bound _ => False
  | .templateBegun _ | .templateField .. | .templateEnded .. => True

/-- The parts of templates decide the keys of their fields. -/
theorem decided_templates_iff {items : List Item} (parts : ∀ item ∈ items, item.OfTemplate)
    (key : String) : Decided scope loader items key ↔ EntersField items key := by
  constructor
  · rintro ⟨item, listed, edit, made, decides⟩
    cases item with
    | imported target => exact (parts _ listed).elim
    | bound global => exact (parts _ listed).elim
    | templateBegun name =>
        obtain rfl := List.mem_singleton.mp made
        exact decides.elim
    | templateEnded name fields =>
        obtain rfl := List.mem_singleton.mp made
        exact decides.elim
    | templateField type field =>
        obtain rfl := List.mem_singleton.mp made
        exact ⟨type, field, listed, decides⟩
  · rintro ⟨type, field, listed, same⟩
    exact ⟨_, listed, _, List.mem_singleton_self _, same⟩

/-! ## Globals -/

/-- A global enters the fields of its type, if fields of that name were not known, or nothing but
itself. -/
theorem edits_bound (loader : Loader) (global : Header.Global) :
    ((Item.bound global).contribution scope loader).edits =
        [.global global.identifier (Item.globalType scope global)] ∨
      loader.draft.fields[Item.globalType scope global]? = none ∧ ∃ fields,
        ((Item.bound global).contribution scope loader).edits =
          fieldEdits loader.registry (Item.globalType scope global) fields ++
            [.global global.identifier (Item.globalType scope global)] := by
  by_cases known : loader.draft.hasFields (Item.globalType scope global)
  · refine .inl ?_
    simp only [Item.contribution, if_pos known, List.nil_append]
  · have unknown : loader.draft.fields[Item.globalType scope global]? = none := by
      simpa [Vocabulary.hasFields] using known
    have made := edits_typeContribution loader.registry loader.settings
      (scope.qualify global.typeName)
      ("Error while inspecting class for global: " ++ global.typeName ++ " error message: ")
      fun _ fields => fieldEdits loader.registry (Item.globalType scope global) fields
    simp only [Item.contribution, if_neg known]
    rcases made with silent | ⟨_, fields, -, entered⟩
    · refine .inl ?_
      rw [silent, List.nil_append]
    · refine .inr ⟨unknown, fields, ?_⟩
      rw [entered]

/-! ## Types and bindings -/

/-- What an item binds. -/
def Item.bindings (scope : Scope) : Item → List Vocabulary.Edit
  | bound global => [.global global.identifier (globalType scope global)]
  | imported _ | templateBegun _ | templateField .. | templateEnded .. => []

theorem ofType_fieldEdits (registry : Registry) (type : String) (fields : List InspectedField) :
    ∀ edit ∈ fieldEdits registry type fields, edit.OfType := by
  intro edit member
  rcases List.mem_cons.mp member with rfl | later
  · trivial
  · obtain ⟨field, -, rfl⟩ := List.mem_map.mp later
    trivial

/-- An item makes edits of types, and binds what it binds behind them. -/
theorem exists_edits_eq (loader : Loader) (item : Item) :
    ∃ edits, (∀ edit ∈ edits, edit.OfType) ∧
      (item.contribution scope loader).edits = edits ++ item.bindings scope := by
  cases item with
  | imported target =>
      refine ⟨_, ?_, (List.append_nil _).symm⟩
      rcases @edits_imported scope loader target with silent | ⟨fields, entered⟩
      · rw [silent]
        exact nofun
      · rw [entered, List.forall_mem_append]
        refine ⟨ofType_fieldEdits loader.registry _ fields, ?_⟩
        rw [List.forall_mem_singleton]
        trivial
  | templateBegun name =>
      exact ⟨[.factType name], List.forall_mem_singleton.mpr trivial, rfl⟩
  | templateField type field =>
      exact ⟨[.fieldType _ _], List.forall_mem_singleton.mpr trivial, rfl⟩
  | templateEnded name fields =>
      exact ⟨[.fields name fields], List.forall_mem_singleton.mpr trivial, rfl⟩
  | bound global =>
      rcases @edits_bound scope loader global with plain | ⟨-, fields, entered⟩
      · exact ⟨[], nofun, plain⟩
      · exact ⟨_, ofType_fieldEdits loader.registry _ fields, entered⟩

/-- No contribution takes everything back. -/
theorem reset_not_mem_contribution (loader : Loader) (item : Item) :
    Vocabulary.Edit.reset ∉ (item.contribution scope loader).edits := by
  obtain ⟨edits, concern, made⟩ := @exists_edits_eq scope loader item
  rw [made, List.mem_append, not_or]
  refine ⟨fun member => concern _ member, ?_⟩
  cases item <;> simp [Item.bindings]

/-! ## Fields that globals enter -/

/-- Edits that list no fact type, lose no fields that were known, and decide the keys of those that
they enter. -/
structure EntersFields (before after : Vocabulary) (edits : List Vocabulary.Edit) : Prop where
  factTypes : after.factTypes = before.factTypes
  kept : ∀ (type : String) (names : List String), before.fields[type]? = some names →
    after.fields[type]? = some names
  decided : ∀ key, (∃ edit ∈ edits, edit.Decides key) ↔
    ∃ type names, after.fields[type]? = some names ∧ before.fields[type]? = none ∧
      ∃ name ∈ names, Vocabulary.fieldKey type name = key

namespace EntersFields

variable {before between after : Vocabulary} {edits later : List Vocabulary.Edit}

theorem of_same (factTypes : after.factTypes = before.factTypes)
    (fields : after.fields = before.fields)
    (idle : ∀ key, ∀ edit ∈ edits, ¬ Vocabulary.Edit.Decides key edit) :
    EntersFields before after edits where
  factTypes := factTypes
  kept := fun type names known => fields ▸ known
  decided := by
    intro key
    constructor
    · rintro ⟨edit, member, decides⟩
      exact (idle key edit member decides).elim
    · rintro ⟨type, names, known, unknown, -⟩
      rw [fields, unknown] at known
      cases known

theorem of_insert {type : String} {names : List String} (unknown : before.fields[type]? = none)
    (factTypes : after.factTypes = before.factTypes)
    (fields : after.fields = before.fields.insert type names)
    (decided : ∀ key, (∃ edit ∈ edits, edit.Decides key) ↔
      ∃ name ∈ names, Vocabulary.fieldKey type name = key) :
    EntersFields before after edits := by
  have found : ∀ other : String, after.fields[other]? =
      if type = other then some names else before.fields[other]? := by
    intro other
    simp only [fields, Std.ExtTreeMap.getElem?_insert, Std.compare_eq_iff_eq]
  refine ⟨factTypes, fun other listed known => ?_, fun key => ?_⟩
  · rw [found]
    split
    · rename_i same
      rw [← same, unknown] at known
      cases known
    · exact known
  · rw [decided]
    constructor
    · intro named
      exact ⟨type, names, by rw [found, if_pos rfl], unknown, named⟩
    · rintro ⟨other, listed, known, new, named⟩
      rw [found] at known
      split at known
      · rename_i same
        cases known
        rw [same]
        exact named
      · rw [new] at known
        cases known

theorem trans (first : EntersFields before between edits)
    (second : EntersFields between after later) : EntersFields before after (edits ++ later) where
  factTypes := second.factTypes.trans first.factTypes
  kept := fun type names known => second.kept type names (first.kept type names known)
  decided := by
    intro key
    have either : (∃ edit ∈ edits ++ later, edit.Decides key) ↔
        (∃ edit ∈ edits, edit.Decides key) ∨ ∃ edit ∈ later, edit.Decides key := by
      simp only [List.mem_append, or_and_right, exists_or]
    rw [either, first.decided, second.decided]
    constructor
    · rintro (⟨type, names, known, new, named⟩ | ⟨type, names, known, new, named⟩)
      · exact ⟨type, names, second.kept type names known, new, named⟩
      · refine ⟨type, names, known, ?_, named⟩
        cases early : before.fields[type]? with
        | none => rfl
        | some listed =>
            rw [first.kept type listed early] at new
            cases new
    · rintro ⟨type, names, known, new, named⟩
      cases amid : between.fields[type]? with
      | none => exact .inr ⟨type, names, known, amid, named⟩
      | some listed =>
          have same := second.kept type listed amid
          rw [known] at same
          cases same
          exact .inl ⟨type, names, amid, new, named⟩

end EntersFields

theorem entersFields_bound (loader : Loader) (global : Header.Global) :
    EntersFields loader.draft
      (((Item.bound global).contribution scope loader).edits.foldl Vocabulary.edit loader.draft)
      ((Item.bound global).contribution scope loader).edits := by
  have idle : ∀ key, ∀ edit ∈ [Vocabulary.Edit.global global.identifier
      (Item.globalType scope global)], ¬ edit.Decides key := by
    intro key edit member
    obtain rfl := List.mem_singleton.mp member
    exact id
  rcases @edits_bound scope loader global with plain | ⟨unknown, fields, entered⟩
  · rw [plain]
    exact .of_same rfl rfl idle
  · have made := fields_foldl_fieldEdits loader.registry (Item.globalType scope global) fields
      loader.draft
    rw [entered, List.foldl_append]
    exact (EntersFields.of_insert unknown made.2 made.1
      (decides_fieldEdits_iff loader.registry (Item.globalType scope global) fields)).trans
        (.of_same rfl rfl idle)

/-- **Globals decide the keys of the fields that they enter.** -/
theorem entersFields_globals (loader : Loader) (globals : List Header.Global) :
    EntersFields loader.draft
      ((course scope loader (globals.map .bound)).edits.foldl Vocabulary.edit loader.draft)
      (course scope loader (globals.map .bound)).edits := by
  induction globals generalizing loader with
  | nil => exact .of_same rfl rfl nofun
  | cons global globals ih =>
      rw [List.map_cons, course, List.foldl_append]
      exact (entersFields_bound loader global).trans (ih { loader with
        draft := ((Item.bound global).contribution scope loader).edits.foldl Vocabulary.edit
          loader.draft })

/-! ## Fact types and types with fields -/

theorem declared_of_ofDeclarations {package : Header.Package} {item : Item}
    (member : item ∈ Item.ofDeclarations package) : item.Declared := by
  rintro global rfl
  rcases List.mem_append.mp member with imported | template
  · obtain ⟨target, -, same⟩ := List.mem_map.mp imported
    cases same
  · obtain ⟨declared, -, part⟩ := List.mem_flatMap.mp template
    simp [Item.ofTemplate] at part

/-- An import lists as a fact type the type whose fields it sets. -/
theorem factType_mem_imported_iff (loader : Loader) (target type : String) :
    Vocabulary.Edit.factType type ∈ ((Item.imported target).contribution scope loader).edits ↔
      ∃ names, Vocabulary.Edit.fields type names ∈
        ((Item.imported target).contribution scope loader).edits := by
  rcases @edits_imported scope loader target with silent | ⟨fields, entered⟩
  · simp [silent]
  · simp [entered, fieldEdits]

/-- A template lists itself as a fact type. -/
theorem factType_mem_template_iff (loader : Loader) (template : Header.Template) (type : String) :
    (∃ item ∈ Item.ofTemplate template,
        Vocabulary.Edit.factType type ∈ (item.contribution scope loader).edits) ↔
      type = template.name := by
  simp [Item.ofTemplate, Item.contribution, or_and_right, exists_or]

/-- A template sets its own fields. -/
theorem fields_mem_template_iff (loader : Loader) (template : Header.Template) (type : String) :
    (∃ item ∈ Item.ofTemplate template, ∃ names,
        Vocabulary.Edit.fields type names ∈ (item.contribution scope loader).edits) ↔
      type = template.name := by
  simp [Item.ofTemplate, Item.contribution, or_and_right, exists_or]

/-- Declarations list as fact types the types whose fields they set, and no others. -/
theorem factType_mem_iff (loader : Loader) (package : Header.Package) (type : String) :
    (∃ item ∈ Item.ofDeclarations package,
        Vocabulary.Edit.factType type ∈ (item.contribution scope loader).edits) ↔
      ∃ item ∈ Item.ofDeclarations package, ∃ names,
        Vocabulary.Edit.fields type names ∈ (item.contribution scope loader).edits := by
  have templates : ∀ template ∈ package.templates, ∀ item ∈ Item.ofTemplate template,
      item ∈ Item.ofDeclarations package :=
    fun template known item part =>
      List.mem_append_right _ (List.mem_flatMap.mpr ⟨template, known, part⟩)
  constructor
  · rintro ⟨item, member, made⟩
    rcases List.mem_append.mp member with imported | template
    · obtain ⟨target, -, rfl⟩ := List.mem_map.mp imported
      exact ⟨_, member, (factType_mem_imported_iff loader target type).mp made⟩
    · obtain ⟨template, known, part⟩ := List.mem_flatMap.mp template
      have own := (factType_mem_template_iff loader template type).mp ⟨item, part, made⟩
      obtain ⟨other, behind, set⟩ := (fields_mem_template_iff loader template type).mpr own
      exact ⟨other, templates template known other behind, set⟩
  · rintro ⟨item, member, set⟩
    rcases List.mem_append.mp member with imported | template
    · obtain ⟨target, -, rfl⟩ := List.mem_map.mp imported
      exact ⟨_, member, (factType_mem_imported_iff loader target type).mpr set⟩
    · obtain ⟨template, known, part⟩ := List.mem_flatMap.mp template
      have own := (fields_mem_template_iff loader template type).mp ⟨item, part, set⟩
      obtain ⟨other, before, made⟩ := (factType_mem_template_iff loader template type).mpr own
      exact ⟨other, templates template known other before, made⟩

/-- **With the declarations entered, exactly the fact types have fields.** -/
theorem factTypes_iff_hasFields {progress : Progress} (begins : progress.vocabulary = .empty)
    (package : Header.Package) (type : String) :
    let entered := progress.add (course scope progress.loader (Item.ofDeclarations package))
    type ∈ entered.vocabulary.factTypes ↔ entered.vocabulary.hasFields type = true := by
  intro entered
  have items := @edits_course scope progress.loader progress.loader rfl
    (Item.ofDeclarations package) fun item => declared_of_ofDeclarations
  have lasting : Vocabulary.Edit.reset ∉
      (course scope progress.loader (Item.ofDeclarations package)).edits := by
    rw [items]
    intro member
    obtain ⟨item, -, made⟩ := List.mem_flatMap.mp member
    exact reset_not_mem_contribution progress.loader item made
  have nothing : progress.vocabulary.hasFields type = false ∧
      type ∉ progress.vocabulary.factTypes := by
    rw [begins]
    simp [Vocabulary.hasFields, Vocabulary.empty]
  show type ∈ (List.foldl Vocabulary.edit progress.vocabulary _).factTypes ↔
    (List.foldl Vocabulary.edit progress.vocabulary _).hasFields type = true
  rw [Vocabulary.mem_factTypes_foldl lasting, Vocabulary.hasFields_foldl lasting, nothing.1,
    or_iff_right nothing.2, or_iff_right Bool.false_ne_true, items]
  simp only [List.mem_flatMap]
  rw [factType_mem_iff]
  constructor
  · rintro ⟨item, member, names, made⟩
    exact ⟨names, item, member, made⟩
  · rintro ⟨names, item, member, made⟩
    exact ⟨item, member, names, made⟩

/-! ## Keys of globals in the end -/

/-- Whether a type that is no fact type has a field under a key. Such fields are entered by globals. -/
def EnteredByGlobal (vocabulary : Vocabulary) (key : String) : Prop :=
  ∃ (type : String) (names : List String), vocabulary.fields[type]? = some names ∧
    type ∉ vocabulary.factTypes ∧ ∃ name ∈ names, Vocabulary.fieldKey type name = key

theorem enteredByGlobal_congr {first second : Vocabulary}
    (alike : first.uncategorized = second.uncategorized) (key : String) :
    EnteredByGlobal first key ↔ EnteredByGlobal second key :=
  show EnteredByGlobal first.uncategorized key ↔ EnteredByGlobal second.uncategorized key by
    rw [alike]

/-- Globals that are entered behind the declarations decide the keys that are theirs in the end. -/
theorem decides_globals_iff {scope : Scope} {before : Loader}
    (level : ∀ type, type ∈ before.draft.factTypes ↔ before.draft.hasFields type = true)
    (globals : List Header.Global) (key : String) :
    (∃ edit ∈ (course scope before (globals.map .bound)).edits, edit.Decides key) ↔
      EnteredByGlobal ((course scope before (globals.map .bound)).edits.foldl Vocabulary.edit
        before.draft) key := by
  have entered := @entersFields_globals scope before globals
  have new : ∀ type : String,
      type ∉ before.draft.factTypes ↔ before.draft.fields[type]? = none := by
    intro type
    rw [level]
    simp [Vocabulary.hasFields]
  rw [entered.decided]
  simp only [EnteredByGlobal, entered.factTypes, new]

end RuleVocabulary.Loader
