import RuleVocabulary.Proofs.Imports
import RuleVocabulary.Proofs.Loader.Entries
import RuleVocabulary.Proofs.Loader.Trail

/-!
# Which declaration decides the fields of a type

Imports, templates and globals write one table of fields. Each of them enters the fields of one type
at one go, if it enters any (`Listing`). Imports and templates overwrite what was listed for their
type, so the last one counts (`Enlisted.concat`). A global enters fields only where none are known,
so among globals the first one counts, and only behind all others (`Memoized.concat`).

What a step keeps of this is carried through the three sequences of a build (`tabulated_of_build`).
The keys of categories are those of all fields that were ever entered; nothing takes them back.

Main statement: the fields of a type are those of its last template, else of its last import, else
of its first global, and fact types are listed where they were first entered
(`fields_decided_by_declarations`).
-/

set_option autoImplicit false

namespace RuleVocabulary

/-! ## Listings -/

/-- The names of the fields that are entered for a type at one go. -/
structure Listing where
  type : String
  names : List String
deriving DecidableEq, Repr

namespace Listing

/-- The keys of the listed fields in the table of categories. -/
def keys (listing : Listing) : List String :=
  listing.names.map (Vocabulary.fieldKey listing.type)

/-- The names in the first listing of a type. -/
def first? (listings : List Listing) (type : String) : Option (List String) :=
  (listings.find? (·.type = type)).map Listing.names

/-- The names in the last listing of a type. -/
def last? (listings : List Listing) (type : String) : Option (List String) :=
  first? listings.reverse type

theorem first?_append (listings more : List Listing) (type : String) :
    first? (listings ++ more) type = (first? listings type).or (first? more type) := by
  simp only [first?, List.find?_append, Option.map_or]

theorem last?_append (listings more : List Listing) (type : String) :
    last? (listings ++ more) type = (last? more type).or (last? listings type) := by
  rw [last?, List.reverse_append, first?_append, last?, last?]

theorem first?_singleton (listing : Listing) (type : String) :
    first? [listing] type = if listing.type = type then some listing.names else none := by
  by_cases same : listing.type = type <;> simp [first?, same]

theorem mem_of_first? {listings : List Listing} {type : String} {names : List String}
    (found : first? listings type = some names) : ⟨type, names⟩ ∈ listings := by
  obtain ⟨listing, here, rfl⟩ := Option.map_eq_some_iff.mp found
  obtain rfl : listing.type = type := by simpa using List.find?_some here
  exact List.mem_of_find?_eq_some here

theorem mem_of_last? {listings : List Listing} {type : String} {names : List String}
    (found : last? listings type = some names) : ⟨type, names⟩ ∈ listings :=
  List.mem_reverse.mp (mem_of_first? found)

theorem last?_isSome_of_mem {listings : List Listing} {listing : Listing}
    (member : listing ∈ listings) : ∃ names, last? listings listing.type = some names := by
  have found : (listings.reverse.find? (·.type = listing.type)).isSome = true := by
    rw [List.find?_isSome]
    exact ⟨listing, List.mem_reverse.mpr member, decide_eq_true rfl⟩
  obtain ⟨other, here⟩ := Option.isSome_iff_exists.mp found
  exact ⟨other.names, congrArg (Option.map Listing.names) here⟩

end Listing

/-! ## Lists of fact types -/

/-- Listing one fact type more keeps the list of first occurrences. -/
theorem factTypes_addFactType {vocabulary : Vocabulary} {names : List String}
    (factTypes : vocabulary.factTypes = names.eraseDups) (name : String) :
    (vocabulary.addFactType name).factTypes = (names ++ [name]).eraseDups := by
  rw [Vocabulary.addFactType_eq, eraseDups_concat, factTypes]
  simp only [List.mem_eraseDups]

namespace Loader

/-! ## Declarations that list fields -/

/-- The listing of a type that a loader finds by its name, if it can list the type's fields. It is
entered under the short name. -/
def listing? (loader : Loader) (name : String) : Option Listing :=
  match typeFields loader.registry loader.settings name with
  | .ok (some (_, fields)) => some ⟨Name.short name, fields.map InspectedField.name⟩
  | .ok none | .error _ => none

/-- The listing that an import enters, given the state in which the build is left. -/
def importListing? (target : String) (after : Progress) : Option Listing :=
  if Name.isWildcard target then none else after.loader.listing? target

/-- The listing that a template enters. -/
def templateListing (template : Header.Template) : Listing :=
  ⟨template.name, template.fields.map Header.TemplateField.name⟩

/-- The listing that a global enters unless fields are known, given the state in which the build is
left. -/
def globalListing? (scope : Scope) (global : Header.Global) (after : Progress) : Option Listing :=
  after.loader.listing? (scope.qualify global.typeName)

section Listings

variable (archives : List Archive) (package : Header.Package) (progress : Progress)

/-- The listings of the imports of a package that are found and can be inspected. -/
def importListings : List Listing :=
  (importTrail archives package progress).filterMap fun entry => importListing? entry.1 entry.2

/-- The listings of the templates of a package. -/
def templateListings : List Listing :=
  package.templates.map templateListing

/-- The listings of the globals of a package whose types are found and can be inspected. -/
def globalListings : List Listing :=
  (globalTrail archives package progress).filterMap fun entry =>
    globalListing? (packageScope progress.settings package) entry.1 entry.2

end Listings

/-- What a type that is looked up by name contributes. The edits made for it go with its
listing. -/
theorem typeContribution_cases (loader : Loader) (name introduction : String)
    (edits : Descriptor → List InspectedField → List Vocabulary.Edit) :
    let contributed :=
      (typeContribution loader.registry loader.settings name introduction edits).edits
    (loader.listing? name = none ∧ contributed = []) ∨
      ∃ type fields, type.shortName = Name.short name ∧
        loader.listing? name = some ⟨Name.short name, fields.map InspectedField.name⟩ ∧
        contributed = edits type fields := by
  unfold typeContribution listing?
  cases found : typeFields loader.registry loader.settings name with
  | error fault => exact .inl ⟨rfl, rfl⟩
  | ok type? =>
      cases type? with
      | none => exact .inl ⟨rfl, rfl⟩
      | some entry => exact .inr ⟨_, _, shortName_of_typeFields found, rfl, rfl⟩

/-! ## Imports and templates -/

/-- What entering a listing for a fact type makes of a vocabulary. -/
structure Enlists (listing : Listing) (before after : Vocabulary) : Prop where
  factTypes : after.factTypes = (before.addFactType listing.type).factTypes
  fields : after.fields = before.fields.insert listing.type listing.names
  keys : ∀ key, key ∈ after.fieldTypes ↔ key ∈ before.fieldTypes ∨ key ∈ listing.keys

/-- The tables of a vocabulary into which listings were entered, one after the other. -/
structure Enlisted (listings : List Listing) (vocabulary : Vocabulary) : Prop where
  factTypes : vocabulary.factTypes = (listings.map Listing.type).eraseDups
  fields : ∀ type : String, vocabulary.fields[type]? = Listing.last? listings type
  keys : ∀ key, key ∈ vocabulary.fieldTypes ↔ ∃ listing ∈ listings, key ∈ listing.keys

theorem Enlisted.empty : Enlisted [] .empty where
  factTypes := rfl
  fields := by simp [Vocabulary.empty, Listing.last?, Listing.first?]
  keys := by simp [Vocabulary.empty]

/-- **The listing entered last counts for its type.** -/
theorem Enlisted.concat {listings : List Listing} {listing : Listing} {before after : Vocabulary}
    (enlisted : Enlisted listings before) (enlists : Enlists listing before after) :
    Enlisted (listings ++ [listing]) after where
  factTypes := by
    rw [enlists.factTypes, factTypes_addFactType enlisted.factTypes, List.map_append]
    rfl
  fields := by
    intro type
    have own : Listing.last? [listing] type =
        if listing.type = type then some listing.names else none :=
      Listing.first?_singleton listing type
    rw [enlists.fields, Listing.last?_append, own, ← enlisted.fields]
    simp only [Std.ExtTreeMap.getElem?_insert, Std.compare_eq_iff_eq]
    split <;> rfl
  keys := by
    intro key
    rw [enlists.keys, enlisted.keys]
    simp only [List.mem_append, List.mem_singleton, or_and_right, exists_or, exists_eq_left]

variable {scope : Scope} {archives : List Archive}

/-- What the edits for the fields of a type make of a vocabulary. -/
theorem tables_foldl_fieldEdits (registry : Registry) (type : String)
    (fields : List InspectedField) (before : Vocabulary) :
    let listing : Listing := ⟨type, fields.map InspectedField.name⟩
    let after := (fieldEdits registry type fields).foldl Vocabulary.edit before
    after.factTypes = before.factTypes ∧ after.fields = before.fields.insert type listing.names ∧
      ∀ key, key ∈ after.fieldTypes ↔ key ∈ before.fieldTypes ∨ key ∈ listing.keys := by
  intro listing after
  have made := fields_foldl_fieldEdits registry type fields before
  have lasting : Vocabulary.Edit.reset ∉ fieldEdits registry type fields := by
    simp [fieldEdits]
  refine ⟨made.2, made.1, ?_⟩
  intro key
  rw [Vocabulary.mem_fieldTypes_foldl lasting, decides_fieldEdits_iff, Listing.keys, List.mem_map]

theorem filterMap_concat {α β : Type} (make : α → Option β) (elements : List α) (element : α) :
    (elements ++ [element]).filterMap make = elements.filterMap make ++ (make element).toList := by
  rw [List.filterMap_append]
  cases made : make element <;> simp [made]

theorem enlisted_of_importType {listings : List Listing} {target : String}
    {progress after : Progress} (enlisted : Enlisted listings progress.vocabulary)
    (done : importType archives target progress = (.ok (), after)) :
    Enlisted (listings ++ (importListing? target after).toList) after.vocabulary := by
  cases whole : Name.isWildcard target with
  | true =>
      rw [importType, if_pos whole] at done
      cases done
      rw [importListing?, if_pos whole, Option.toList_none, List.append_nil]
      exact enlisted
  | false =>
      rw [@importType_eq ⟨.none, progress.settings⟩ archives target whole] at done
      have entered := vocabulary_of_enterItem done
      have listing : importListing? target after = after.loader.listing? target := by
        simp only [importListing?, whole, Bool.false_eq_true, ↓reduceIte]
      rw [listing]
      rcases typeContribution_cases after.loader target
        ("Error while inspecting the class: " ++ target ++ ". The error was: ")
        (fun type fields => fieldEdits after.loader.registry type.shortName fields ++
          [.factType type.shortName]) with ⟨none, silent⟩ | ⟨type, fields, short, one, made⟩
      · have same : after.vocabulary = progress.vocabulary := by
          rw [entered]
          exact congrArg (List.foldl Vocabulary.edit progress.vocabulary) silent
        rw [none, same, Option.toList_none, List.append_nil]
        exact enlisted
      · have filled : after.vocabulary = ((fieldEdits after.loader.registry (Name.short target)
            fields).foldl Vocabulary.edit progress.vocabulary).addFactType (Name.short target) := by
          rw [entered, ← short]
          refine (congrArg (List.foldl Vocabulary.edit progress.vocabulary) made).trans ?_
          rw [List.foldl_append]
          rfl
        obtain ⟨factTypes, fields, keys⟩ := tables_foldl_fieldEdits after.loader.registry
          (Name.short target) fields progress.vocabulary
        rw [one, filled]
        refine enlisted.concat ⟨?_, ?_, ?_⟩
        · simp only [Vocabulary.addFactType_eq, factTypes]
        · rw [Vocabulary.addFactType_eq]
          exact fields
        · intro key
          rw [Vocabulary.addFactType_eq]
          exact keys key

/-- The category of a field is all that a field of a template enters. -/
theorem vocabulary_of_enterTemplateField {type : String} {field : Header.TemplateField}
    {progress after : Progress}
    (done : enterTemplateField scope archives type field progress = (.ok (), after)) :
    after.vocabulary = progress.vocabulary.setFieldType (Vocabulary.fieldKey type field.name)
      (fieldCategory scope after.registry field) := by
  rw [enterTemplateField_eq] at done
  exact vocabulary_of_enterItem done

/-- What entering categories for fields of a type makes of a vocabulary. -/
structure Categorizes (listing : Listing) (before after : Vocabulary) : Prop where
  factTypes : after.factTypes = before.factTypes
  fields : after.fields = before.fields
  keys : ∀ key, key ∈ after.fieldTypes ↔ key ∈ before.fieldTypes ∨ key ∈ listing.keys

/-- The fields of a template enter their categories and nothing else. -/
theorem categorizes_of_templateFields {type : String} {fields : List Header.TemplateField}
    {progress final : Progress}
    (done : forEach (enterTemplateField scope archives type) fields progress = (.ok (), final)) :
    Categorizes ⟨type, fields.map Header.TemplateField.name⟩ progress.vocabulary
      final.vocabulary := by
  have along : Categorizes ⟨type, ((trail (enterTemplateField scope archives type) fields
      progress).map Prod.fst).map Header.TemplateField.name⟩ progress.vocabulary
        final.vocabulary := by
    refine keeps_along (motive := fun seen after => Categorizes
      ⟨type, (seen.map Prod.fst).map Header.TemplateField.name⟩ progress.vocabulary
        after.vocabulary) ?_ ⟨rfl, rfl, by simp [Listing.keys]⟩ done
    intro seen field between after categorized entered
    rw [vocabulary_of_enterTemplateField entered]
    refine ⟨categorized.factTypes, categorized.fields, ?_⟩
    intro key
    simp only [Vocabulary.setFieldType, Std.ExtTreeMap.mem_insert, Std.compare_eq_iff_eq,
      categorized.keys, Listing.keys, List.map_append, List.map_cons, List.map_nil,
      List.mem_append, List.mem_singleton]
    rw [or_comm, or_assoc, eq_comm]
  rw [map_fst_trail] at along
  exact along

theorem enlisted_of_enterTemplate {listings : List Listing} {template : Header.Template}
    {progress after : Progress} (enlisted : Enlisted listings progress.vocabulary)
    (done : enterTemplate scope archives template progress = (.ok (), after)) :
    Enlisted (listings ++ [templateListing template]) after.vocabulary := by
  unfold enterTemplate at done
  simp only at done
  split at done
  · cases done
  · rename_i between entered
    cases done
    have categorized := categorizes_of_templateFields entered
    refine enlisted.concat ⟨categorized.factTypes, ?_, ?_⟩
    · have fields : between.vocabulary.fields = progress.vocabulary.fields := by
        rw [categorized.fields]
        simp only [Progress.vocabulary, Progress.edit, Vocabulary.addFactType_eq]
      simp only [Progress.vocabulary, Progress.edit, Vocabulary.setFields] at fields ⊢
      rw [fields]
      rfl
    · intro key
      have keys := categorized.keys key
      simp only [Progress.vocabulary, Progress.edit, Vocabulary.addFactType_eq] at keys
      exact keys

/-- Imports enlist the types that are found and can be inspected. -/
theorem enlisted_of_imports {package : Header.Package} {progress final : Progress}
    (begins : progress.vocabulary = .empty)
    (done : forEach (importType archives) package.imports progress = (.ok (), final)) :
    Enlisted (importListings archives package progress) final.vocabulary := by
  have steps : ∀ (seen : List (String × Progress)) (target : String) (between after : Progress),
      Enlisted (seen.filterMap fun entry => importListing? entry.1 entry.2) between.vocabulary →
      importType archives target between = (.ok (), after) →
      Enlisted ((seen ++ [(target, after)]).filterMap fun entry => importListing? entry.1 entry.2)
        after.vocabulary := by
    intro seen target between after enlisted entered
    rw [filterMap_concat]
    exact enlisted_of_importType enlisted entered
  have empty : Enlisted [] progress.vocabulary := begins ▸ .empty
  exact keeps_along steps empty done

/-- Templates enlist their own fields. -/
theorem enlisted_of_templates {listings : List Listing} {package : Header.Package}
    {progress final : Progress} (enlisted : Enlisted listings progress.vocabulary)
    (done : forEach (enterTemplate scope archives) package.templates progress = (.ok (), final)) :
    Enlisted (listings ++ templateListings package) final.vocabulary := by
  have steps : ∀ (seen : List (Header.Template × Progress)) (template : Header.Template)
      (between after : Progress),
      Enlisted (listings ++ (seen.map Prod.fst).map templateListing) between.vocabulary →
      enterTemplate scope archives template between = (.ok (), after) →
      Enlisted (listings ++ ((seen ++ [(template, after)]).map Prod.fst).map templateListing)
        after.vocabulary := by
    intro seen template between after enlisted entered
    rw [List.map_append, List.map_append, ← List.append_assoc]
    exact enlisted_of_enterTemplate enlisted entered
  have begins : Enlisted (listings ++ (([] : List (Header.Template × Progress)).map
      Prod.fst).map templateListing) progress.vocabulary := by
    simpa using enlisted
  have along := keeps_along steps begins done
  rw [map_fst_trail] at along
  exact along

/-! ## Globals -/

/-- What globals with the given listings make of a vocabulary. Where fields of a type were known
they stay; else those of its first listing are entered. -/
structure Memoized (listings : List Listing) (edits : List Vocabulary.Edit)
    (before after : Vocabulary) : Prop where
  made : after = edits.foldl Vocabulary.edit before
  lasting : .reset ∉ edits
  enters : EntersFields before after edits
  fields : ∀ type : String, after.fields[type]? =
    before.fields[type]?.or (Listing.first? listings type)

theorem Memoized.nil (vocabulary : Vocabulary) : Memoized [] [] vocabulary vocabulary where
  made := rfl
  lasting := nofun
  enters := .of_same rfl rfl nofun
  fields := fun _ => Option.or_none.symm

/-- **The listing entered first stays.** -/
theorem Memoized.append {listings more : List Listing} {edits later : List Vocabulary.Edit}
    {before between after : Vocabulary} (first : Memoized listings edits before between)
    (second : Memoized more later between after) :
    Memoized (listings ++ more) (edits ++ later) before after where
  made := by rw [List.foldl_append, ← first.made, ← second.made]
  lasting := fun member => (List.mem_append.mp member).elim first.lasting second.lasting
  enters := first.enters.trans second.enters
  fields := by
    intro type
    rw [second.fields, first.fields, Listing.first?_append, Option.or_assoc]

/-- What a global enters. Where fields of its type are known, or none can be listed, it is only
itself; else the fields of its listing go before it. -/
theorem edits_bound_cases (loader : Loader) (global : Header.Global) :
    let type := Item.globalType scope global
    let listing? := loader.listing? (scope.qualify global.typeName)
    let edits := ((Item.bound global).contribution scope loader).edits
    let itself : Vocabulary.Edit := .global global.identifier type
    ((∃ names, loader.draft.fields[type]? = some names) ∧ edits = [itself]) ∨
      (listing? = none ∧ edits = [itself]) ∨
      (loader.draft.fields[type]? = none ∧ ∃ fields,
        listing? = some ⟨type, fields.map InspectedField.name⟩ ∧
          edits = fieldEdits loader.registry type fields ++ [itself]) := by
  by_cases known : loader.draft.hasFields (Item.globalType scope global)
  · refine .inl ⟨?_, ?_⟩
    · exact (Vocabulary.hasFields_iff ..).mp known
    · simp only [Item.contribution, if_pos known, List.nil_append]
  · have unknown : loader.draft.fields[Item.globalType scope global]? = none := by
      simpa [Vocabulary.hasFields] using known
    simp only [Item.contribution, if_neg known]
    rcases typeContribution_cases loader (scope.qualify global.typeName)
      ("Error while inspecting class for global: " ++ global.typeName ++ " error message: ")
      (fun _ fields => fieldEdits loader.registry (Item.globalType scope global) fields) with
        ⟨none, silent⟩ | ⟨_, fields, -, one, made⟩
    · refine .inr (.inl ⟨none, ?_⟩)
      rw [silent, List.nil_append]
    · refine .inr (.inr ⟨unknown, fields, one, ?_⟩)
      rw [made]

theorem first?_listing?_of_ne (loader : Loader) {name type : String}
    (other : Name.short name ≠ type) :
    Listing.first? (loader.listing? name).toList type = none := by
  unfold listing?
  split
  · rw [Option.toList_some, Listing.first?_singleton, if_neg other]
  · rfl
  · rfl

/-- A global enters the listing of its type where no fields of it are known. -/
theorem fields_foldl_bound (loader : Loader) (global : Header.Global) (type : String) :
    (((Item.bound global).contribution scope loader).edits.foldl Vocabulary.edit
        loader.draft).fields[type]? =
      loader.draft.fields[type]?.or
        (Listing.first? (loader.listing? (scope.qualify global.typeName)).toList type) := by
  rcases @edits_bound_cases scope loader global with
    ⟨⟨names, known⟩, itself⟩ | ⟨none, itself⟩ | ⟨unknown, fields, one, entered⟩
  · rw [itself]
    show loader.draft.fields[type]? = _
    by_cases same : Item.globalType scope global = type
    · rw [← same, known, Option.some_or]
    · rw [first?_listing?_of_ne loader same, Option.or_none]
  · rw [itself, none]
    exact Option.or_none.symm
  · rw [entered, one, List.foldl_append, Option.toList_some, Listing.first?_singleton]
    show ((fieldEdits loader.registry (Item.globalType scope global) fields).foldl
      Vocabulary.edit loader.draft).fields[type]? = _
    rw [(fields_foldl_fieldEdits ..).1]
    simp only [Std.ExtTreeMap.getElem?_insert, Std.compare_eq_iff_eq]
    split
    · rename_i same
      rw [← same, unknown, Option.none_or]
    · exact Option.or_none.symm

theorem memoized_of_enterGlobal {global : Header.Global} {progress after : Progress}
    (done : enterGlobal scope archives global progress = (.ok (), after)) :
    Memoized (globalListing? scope global after).toList
      ((Item.bound global).contribution scope
        { after.loader with draft := progress.vocabulary }).edits
      progress.vocabulary after.vocabulary := by
  have entered := vocabulary_of_enterItem (enterGlobal_eq global ▸ done)
  refine ⟨entered, reset_not_mem_contribution _ _, ?_, ?_⟩
  · rw [entered]
    exact entersFields_bound { after.loader with draft := progress.vocabulary } global
  · rw [entered]
    exact fields_foldl_bound { after.loader with draft := progress.vocabulary } global

/-- Globals enter listings where no fields are known. -/
theorem memoized_of_globals {globals : List Header.Global} {between final : Progress}
    (done : forEach (enterGlobal scope archives) globals between = (.ok (), final)) :
    ∃ edits, Memoized ((trail (enterGlobal scope archives) globals between).filterMap
      fun entry => globalListing? scope entry.1 entry.2) edits between.vocabulary
        final.vocabulary := by
  have steps : ∀ (seen : List (Header.Global × Progress)) (global : Header.Global)
      (progress after : Progress),
      (∃ edits, Memoized (seen.filterMap fun entry => globalListing? scope entry.1 entry.2) edits
        between.vocabulary progress.vocabulary) →
      enterGlobal scope archives global progress = (.ok (), after) →
      ∃ edits, Memoized ((seen ++ [(global, after)]).filterMap
        fun entry => globalListing? scope entry.1 entry.2) edits between.vocabulary
          after.vocabulary := by
    rintro seen global progress after ⟨edits, memoized⟩ entered
    rw [filterMap_concat]
    exact ⟨_, memoized.append (memoized_of_enterGlobal entered)⟩
  exact keeps_along steps ⟨[], .nil _⟩ done

/-! ## Builds -/

/-- The tables that a build leaves whose declarations and globals have the given listings. -/
structure Tabulated (declarations globals : List Listing) (vocabulary : Vocabulary) : Prop where
  factTypes : vocabulary.factTypes = (declarations.map Listing.type).eraseDups
  fields : ∀ type : String, vocabulary.fields[type]? =
    (Listing.last? declarations type).or (Listing.first? globals type)
  keys : ∀ key, key ∈ vocabulary.fieldTypes ↔
    (∃ listing ∈ declarations, key ∈ listing.keys) ∨
      ∃ listing : Listing, vocabulary.fields[listing.type]? = some listing.names ∧
        key ∈ listing.keys

theorem Tabulated.of_memoized {declarations globals : List Listing}
    {edits : List Vocabulary.Edit} {before after : Vocabulary}
    (enlisted : Enlisted declarations before) (memoized : Memoized globals edits before after) :
    Tabulated declarations globals after where
  factTypes := memoized.enters.factTypes.trans enlisted.factTypes
  fields := by
    intro type
    rw [memoized.fields, enlisted.fields]
  keys := by
    intro key
    have made : key ∈ after.fieldTypes ↔
        key ∈ before.fieldTypes ∨ ∃ edit ∈ edits, edit.Decides key := by
      rw [memoized.made]
      exact Vocabulary.mem_fieldTypes_foldl memoized.lasting before key
    rw [made, enlisted.keys, memoized.enters.decided]
    constructor
    · rintro (declared | ⟨type, names, listed, -, name, member, same⟩)
      · exact .inl declared
      · exact .inr ⟨⟨type, names⟩, listed, List.mem_map.mpr ⟨name, member, same⟩⟩
    · rintro (declared | ⟨⟨type, names⟩, listed, member⟩)
      · exact .inl declared
      · cases known : before.fields[type]? with
        | none => exact .inr ⟨type, names, listed, known, List.mem_map.mp member⟩
        | some earlier =>
            -- Fields that were known stay, so they are those of a declaration.
            obtain rfl : earlier = names :=
              Option.some.inj ((memoized.enters.kept type earlier known).symm.trans listed)
            rw [enlisted.fields] at known
            exact .inl ⟨_, Listing.mem_of_last? known, member⟩

theorem Tabulated.of_same {declarations globals : List Listing} {first second : Vocabulary}
    (tabulated : Tabulated declarations globals first)
    (factTypes : second.factTypes = first.factTypes) (fields : second.fields = first.fields)
    (fieldTypes : second.fieldTypes = first.fieldTypes) :
    Tabulated declarations globals second where
  factTypes := factTypes.trans tabulated.factTypes
  fields := by
    rw [fields]
    exact tabulated.fields
  keys := by
    rw [fields, fieldTypes]
    exact tabulated.keys

/-- **What a build leaves in its tables.** -/
theorem tabulated_of_build {loader : Loader} {header : String} {files : List Mapping.File}
    {outcome : Outcome} (built : (loader.build header archives files).1 = .ok outcome) :
    ∃ reading, declared header = .ok reading ∧
      Tabulated
        (importListings archives reading.package (begun loader reading) ++
          templateListings reading.package)
        (globalListings archives reading.package (begun loader reading))
        outcome.vocabulary := by
  obtain ⟨reading, final, read, imports, templates, globals, rfl⟩ := stages_of_build built
  have enlisted := enlisted_of_templates (enlisted_of_imports rfl imports) templates
  obtain ⟨edits, memoized⟩ := memoized_of_globals globals
  obtain ⟨factTypes, fields, fieldTypes⟩ := frame_enterSentences files final.vocabulary
  exact ⟨reading, read, (Tabulated.of_memoized enlisted memoized).of_same factTypes fields
    fieldTypes⟩

/-- **Which declaration decides the fields of a type.** They are those of its last template; else
those of the last import of its short name that is found and can be inspected; else those of the
first global whose qualified type has its short name and is found and can be inspected. The fact
types are the imports that are found and can be inspected and the templates, each listed where it
first comes. Every declaration is looked up in the registry in which the step for it leaves the
build. -/
theorem fields_decided_by_declarations (loader : Loader) (header : String)
    (archives : List Archive) (files : List Mapping.File) (outcome : Outcome)
    (built : (loader.build header archives files).1 = .ok outcome) :
    ∃ reading, declared header = .ok reading ∧
      let package := reading.package
      let imports := importListings archives package (begun loader reading)
      let templates := templateListings package
      let globals := globalListings archives package (begun loader reading)
      (∀ type, outcome.vocabulary.fields? type =
        ((Listing.last? templates type).or (Listing.last? imports type)).or
          (Listing.first? globals type)) ∧
      outcome.vocabulary.factTypes =
        (imports.map Listing.type ++ package.templates.map Header.Template.name).eraseDups := by
  obtain ⟨reading, read, tabulated⟩ := tabulated_of_build built
  refine ⟨reading, read, ?_, ?_⟩
  · intro type
    rw [← Listing.last?_append]
    exact tabulated.fields type
  · have names : (templateListings reading.package).map Listing.type =
        reading.package.templates.map Header.Template.name := by
      rw [templateListings, List.map_map]
      rfl
    rw [tabulated.factTypes, List.map_append, names]

/-- A loader that knows two types of one short name. -/
def colliding : Loader :=
  ((ofSettings .default).define ⟨"a.X", .classType, [], [⟨"p", "int"⟩]⟩).define
    ⟨"b.X", .classType, [], [⟨"q", "int"⟩]⟩

/-- A header that imports both, and declares templates and globals of like names. -/
def collision : String :=
  "import a.X;\nimport b.X;\ntemplate T\nend\ntemplate T\n X v\n X v\nend\nglobal a.X g;"

/-- What a build of the header offers. -/
def collided : Vocabulary :=
  .ofEdits [.factType "X", .fields "X" ["q"], .fieldType "X.p" .numeric,
    .fieldType "X.q" .numeric, .factType "T", .fields "T" ["v", "v"],
    .fieldType "T.v" .unknown, .global "g" "X"]

theorem vocabulary_of_collision :
    (colliding.build collision [] []).1.map Outcome.vocabulary = .ok collided := by
  decide +kernel

theorem exists_outcome_of_collision :
    ∃ outcome, (colliding.build collision [] []).1 = .ok outcome ∧
      outcome.vocabulary = collided := by
  have vocabulary := vocabulary_of_collision
  cases built : (colliding.build collision [] []).1 with
  | error fault =>
      rw [built] at vocabulary
      cases vocabulary
  | ok outcome =>
      rw [built] at vocabulary
      exact ⟨outcome, rfl, Except.ok.inj vocabulary⟩

/-- The import and the template that come last count, and the global enters nothing. -/
theorem last_declarations_decide :
    ∃ outcome reading, (colliding.build collision [] []).1 = .ok outcome ∧
      declared collision = .ok reading ∧
      (let imports := importListings [] reading.package (begun colliding reading)
      let templates := templateListings reading.package
      let globals := globalListings [] reading.package (begun colliding reading)
      ((Listing.last? templates "X").or (Listing.last? imports "X")).or
          (Listing.first? globals "X") = some ["q"] ∧
        ((Listing.last? templates "T").or (Listing.last? imports "T")).or
          (Listing.first? globals "T") = some ["v", "v"] ∧
        (imports.map Listing.type ++
          reading.package.templates.map Header.Template.name).eraseDups = ["X", "T"]) := by
  obtain ⟨outcome, built, vocabulary⟩ := exists_outcome_of_collision
  obtain ⟨reading, read, fields, factTypes⟩ :=
    fields_decided_by_declarations colliding collision [] [] outcome built
  refine ⟨outcome, reading, built, read, ?_, ?_, ?_⟩
  · rw [← fields, vocabulary]
    decide
  · rw [← fields, vocabulary]
    decide
  · rw [← factTypes, vocabulary]
    decide

end Loader

end RuleVocabulary
