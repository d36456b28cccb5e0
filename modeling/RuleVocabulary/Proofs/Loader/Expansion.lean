import RuleVocabulary.Proofs.Loader.Course
import RuleVocabulary.Proofs.Registry.Ambient

/-!
# Around an expansion

A build may begin before archives are expanded and end after that. Its items are compared with the
course that they take where the same archives are expanded from the start. An item whose type is
missing makes the build expand the archives, and from there on both do the same
(`forEach_of_missing`). An item whose type is known contributes the same before and after
(`contribution_of_known`), unless it is a field of a template: only there is a name resolved that
may stand for several types.

So items without fields of templates contribute the same whether the expansion comes before,
amid or behind them (`forEach_around`).
-/

set_option autoImplicit false

namespace RuleVocabulary.Loader

/-- A loader whose archives are yet to be expanded. Nothing is registered, and what is known is known
together with all it refers to. -/
structure Unexpanded (archives : List Archive) (entries : List Archive.Entry)
    (loader : Loader) : Prop where
  fresh : loader.expander.expanded = false
  given : archives ≠ []
  read : Expander.expandAll archives = .ok entries
  bare : loader.registry.resources = ∅
  closed : loader.registry.Closed

/-- Whether a loader is, its draft apart, one given before an expansion or one left by it. -/
def Around (loader : Loader) (entries : List Archive.Entry) (now : Loader) : Prop :=
  now.cleared = loader.cleared ∨ now.cleared = (loader.withEntries entries).cleared

/-! ## Types that were known before -/

section Known

variable {before after : Registry}

theorem fieldEdits_congr {fields : List InspectedField}
    (agree : ∀ field ∈ fields, Category.ofType? after field.declaredType =
      Category.ofType? before field.declaredType) (type : String) :
    fieldEdits after type fields = fieldEdits before type fields := by
  unfold fieldEdits
  refine congrArg _ (List.map_congr_left fun field member => ?_)
  rw [agree field member]

/-- A type that was known contributes what it contributed before. -/
theorem typeContribution_of_below (below : before.Below after) (closed : before.Closed)
    (settings : Settings) {name introduction : String}
    {first second : Descriptor → List InspectedField → List Vocabulary.Edit}
    (agree : ∀ type fields, (∀ field ∈ fields, Category.ofType? after field.declaredType =
      Category.ofType? before field.declaredType) → second type fields = first type fields)
    {type : Descriptor} (known : before.lookup name = .ok (some type)) :
    typeContribution after settings name introduction second =
      typeContribution before settings name introduction first := by
  simp only [typeContribution, typeFields, known, below.lookup _ _ known,
    Registry.fields_of_below below closed settings known]
  cases listed : Inspection.fields before settings type with
  | error fault => rfl
  | ok fields =>
      have categories : ∀ field ∈ fields, Category.ofType? after field.declaredType =
          Category.ofType? before field.declaredType := by
        intro field member
        obtain ⟨name, found, declared, looked⟩ :=
          Registry.declaredType_of_closed closed known listed member
        rw [declared]
        exact Registry.ofType?_of_below below closed looked
      simp only [agree type fields categories]

end Known

variable {scope : Scope} {archives : List Archive} {entries : List Archive.Entry}
  {loader : Loader}

/-- Before an expansion a name that is not missing has a type. -/
theorem exists_type_of_known (bare : loader.registry.resources = ∅) {name : String}
    (known : loader.registry.lookup name ≠ .ok none) :
    ∃ type, loader.registry.lookup name = .ok (some type) := by
  obtain ⟨found, looked⟩ := Registry.exists_lookup_of_bare bare name
  cases found with
  | none => exact absurd looked known
  | some type => exact ⟨type, looked⟩

/-- **What was known contributes the same after an expansion**, fields of templates apart. -/
theorem contribution_of_known (unexpanded : Unexpanded archives entries loader)
    {first second : Loader} (ahead : first.cleared = loader.cleared)
    (past : second.cleared = (loader.withEntries entries).cleared)
    (alike : first.draft.uncategorized = second.draft.uncategorized) {item : Item}
    (known : ¬ item.Missing scope first)
    (plain : ∀ type field, item ≠ .templateField type field) :
    item.contribution scope second = item.contribution scope first := by
  have bare : first.registry.resources = ∅ :=
    (congrArg Registry.resources (registry_of_cleared ahead)).trans unexpanded.bare
  have closed : first.registry.Closed := registry_of_cleared ahead ▸ unexpanded.closed
  have settings : second.settings = first.settings :=
    (settings_of_cleared past).trans (settings_of_cleared ahead).symm
  have below : first.registry.Below second.registry := by
    refine Registry.below_of_bare bare ?_
    rw [registry_of_cleared ahead, registry_of_cleared past]
    rfl
  cases item with
  | imported target =>
      obtain ⟨type, looked⟩ := exists_type_of_known bare fun miss => known ⟨_, rfl, miss⟩
      simp only [Item.contribution, settings]
      refine typeContribution_of_below below closed _ (fun type fields agree => ?_) looked
      rw [fieldEdits_congr agree]
  | templateBegun name => rfl
  | templateField type field => exact absurd rfl (plain type field)
  | templateEnded name fields => rfl
  | bound global =>
      simp only [Item.contribution, ← Vocabulary.hasFields_of_uncategorized alike, settings]
      by_cases listed : first.draft.hasFields (Item.globalType scope global)
      · simp only [if_pos listed]
      · have sought : (Item.bound global).find? scope first.draft =
            some (·.lookup (scope.qualify global.typeName)) := if_neg listed
        obtain ⟨type, looked⟩ := exists_type_of_known bare fun miss => known ⟨_, sought, miss⟩
        simp only [if_neg listed]
        rw [typeContribution_of_below below closed _ _ looked]
        exact fun type fields agree => fieldEdits_congr agree _

/-! ## Items around an expansion -/

/-- Where a type is missing, an expansion might as well have been made before. -/
theorem forEach_of_missing (unexpanded : Unexpanded archives entries loader) {item : Item}
    {items : List Item} {progress : Progress} (ahead : progress.loader.cleared = loader.cleared)
    (missing : item.Missing scope progress.loader) :
    forEach (enterItem scope archives) (item :: items) progress =
      forEach (enterItem scope archives) (item :: items)
        { progress with loader := progress.loader.withEntries entries } := by
  have fresh : progress.loader.expander.expanded = false := by
    rw [expander_of_cleared ahead]
    exact unexpanded.fresh
  have read : searchedFor scope archives progress.loader item =
      .ok (progress.loader.withEntries entries) := by
    rw [searchedFor_of_missing missing, expanded_of_fresh fresh unexpanded.given, unexpanded.read]
    rfl
  have spent : searchedFor scope archives (progress.loader.withEntries entries) item =
      .ok (progress.loader.withEntries entries) :=
    searchedFor_of_spent item (.inl rfl)
  rw [forEach_cons, forEach_cons]
  simp only [enterItem, read, spent]

/-- Past the expansion items take one and the same course. -/
theorem forEach_of_past {first second : Progress}
    (turned : first.loader.cleared = (loader.withEntries entries).cleared)
    (past : second.loader.cleared = (loader.withEntries entries).cleared)
    (alike : first.vocabulary.uncategorized = second.vocabulary.uncategorized)
    (items : List Item) :
    forEach (enterItem scope archives) items first =
      (.ok (), first.add (course scope second.loader items)) := by
  have spent : first.loader.expander.expanded = true := by
    rw [expander_of_cleared turned]
    rfl
  rw [forEach_of_spent items (.inl spent), course_congr (turned.trans past.symm) alike]

/-- **An expansion changes nothing for items other than fields of templates**, wherever among them
it is made. -/
theorem forEach_around (unexpanded : Unexpanded archives entries loader)
    {first second : Progress} (stage : Around loader entries first.loader)
    (past : second.loader.cleared = (loader.withEntries entries).cleared)
    (alike : first.vocabulary.uncategorized = second.vocabulary.uncategorized)
    {items : List Item} (plain : ∀ item ∈ items, ∀ type field, item ≠ .templateField type field) :
    ∃ after, forEach (enterItem scope archives) items first = (.ok (), after) ∧
      Around loader entries after.loader ∧
      after.vocabulary = (first.add (course scope second.loader items)).vocabulary ∧
      after.messages = (first.add (course scope second.loader items)).messages := by
  rcases stage with ahead | turned
  · induction items generalizing first second with
    | nil => exact ⟨first, rfl, .inl ahead, rfl, (List.append_nil _).symm⟩
    | cons item items ih =>
        by_cases missing : item.Missing scope first.loader
        · have turned : (first.loader.withEntries entries).cleared =
              (loader.withEntries entries).cleared :=
            congrArg (·.withEntries entries) ahead
          rw [forEach_of_missing unexpanded ahead missing, @forEach_of_past scope archives entries
            loader { first with loader := first.loader.withEntries entries } second turned past alike]
          exact ⟨_, rfl, .inr turned, rfl, rfl⟩
        · have same : item.contribution scope second.loader = item.contribution scope first.loader :=
            contribution_of_known unexpanded ahead past alike missing
              (plain item (List.mem_cons_self ..))
          have rest : ∀ other ∈ items, ∀ type field, other ≠ .templateField type field :=
            fun other member => plain other (List.mem_cons_of_mem _ member)
          obtain ⟨after, done, around, vocabulary, messages⟩ :=
            @ih (first.add (item.contribution scope second.loader))
              (second.add (item.contribution scope second.loader)) past
              (Vocabulary.uncategorized_foldl alike _) rest ahead
          rw [add_add] at vocabulary messages
          refine ⟨after, ?_, around, vocabulary, messages⟩
          rw [forEach_cons, enterItem_of_known missing, ← same]
          exact done
  · exact ⟨_, forEach_of_past turned past alike items, .inr turned, rfl, rfl⟩

end RuleVocabulary.Loader
