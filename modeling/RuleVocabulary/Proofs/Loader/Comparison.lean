import RuleVocabulary.Proofs.Loader.Entries
import RuleVocabulary.Proofs.Loader.Expansion

/-!
# Fields of templates around an expansion

A field of a template is resolved in the registry of the moment. Those that come before the first
item whose type is missing are resolved before the expansion (`earlyFields`), and only they may
mean something else afterwards.

Two builds with the same declarations are compared, one that begins before the expansion and one
that begins past it. Item by item the comparison is carried along (`Compares`): the drafts differ
in categories alone, and the messages of the first build are among those of the second. They are
the same if each early field is reported alike, and the categories under a key are the same if each
early field with this key has the same category or is followed by an item that decides the key
(`compares_forEach`).
-/

set_option autoImplicit false

namespace RuleVocabulary.Loader

/-! ## Early fields -/

/-- A field of a template, and the items that come behind it. -/
structure EarlyField where
  type : String
  field : Header.TemplateField
  later : List Item

/-- The key under which the category of a field is entered. -/
def EarlyField.key (early : EarlyField) : String :=
  Vocabulary.fieldKey early.type early.field.name

/-- The fields of templates that come before the first item whose type is missing. -/
def earlyFields (scope : Scope) (registry : Registry) : List Item → List EarlyField
  | [] => []
  | .imported target :: items =>
    if registry.lookup target = .ok none then [] else earlyFields scope registry items
  | .templateField type field :: items =>
    if scope.resolve registry field.typeName = .ok none then []
    else ⟨type, field, items⟩ :: earlyFields scope registry items
  | _ :: items => earlyFields scope registry items

variable {scope : Scope}

theorem earlyFields_of_missing {loader : Loader} {item : Item} (items : List Item)
    (declared : item.Declared) (missing : item.Missing scope loader) :
    earlyFields scope loader.registry (item :: items) = [] := by
  obtain ⟨find, sought, miss⟩ := missing
  cases item with
  | bound global => exact absurd rfl (declared global)
  | templateBegun name => exact absurd sought (Option.some_ne_none find).symm
  | templateEnded name fields => exact absurd sought (Option.some_ne_none find).symm
  | imported target =>
      obtain rfl := Option.some.inj sought
      exact if_pos miss
  | templateField type field =>
      obtain rfl := Option.some.inj sought
      exact if_pos miss

theorem earlyFields_of_plain {loader : Loader} {item : Item} (items : List Item)
    (known : ¬ item.Missing scope loader) (plain : ∀ type field, item ≠ .templateField type field) :
    earlyFields scope loader.registry (item :: items) =
      earlyFields scope loader.registry items := by
  cases item with
  | imported target => exact if_neg fun miss => known ⟨_, rfl, miss⟩
  | templateField type field => exact absurd rfl (plain type field)
  | bound global => rfl
  | templateBegun name => rfl
  | templateEnded name fields => rfl

theorem earlyFields_of_field {loader : Loader} {type : String} {field : Header.TemplateField}
    (items : List Item) (known : ¬ (Item.templateField type field).Missing scope loader) :
    earlyFields scope loader.registry (.templateField type field :: items) =
      ⟨type, field, items⟩ :: earlyFields scope loader.registry items :=
  if_neg fun miss => known ⟨_, rfl, miss⟩

/-- What comes behind an early field comes behind it in the list. -/
theorem later_suffix_of_earlyFields {registry : Registry} {items : List Item} {early : EarlyField}
    (member : early ∈ earlyFields scope registry items) : early.later <:+ items := by
  induction items with
  | nil => cases member
  | cons item items ih =>
      have further : early ∈ earlyFields scope registry items → early.later <:+ item :: items :=
        fun later => (ih later).trans (List.suffix_cons item items)
      cases item with
      | imported target =>
          rw [earlyFields] at member
          split at member
          · cases member
          · exact further member
      | templateField type field =>
          rw [earlyFields] at member
          split at member
          · cases member
          · rcases List.mem_cons.mp member with rfl | later
            · exact List.suffix_cons _ items
            · exact further later
      | templateBegun name => exact further member
      | templateEnded name fields => exact further member
      | bound global => exact further member

theorem earlyFields_imports_subset (registry : Registry) (targets : List String)
    (items : List Item) :
    earlyFields scope registry (targets.map .imported ++ items) ⊆
      earlyFields scope registry items := by
  induction targets with
  | nil => exact List.Subset.refl _
  | cons target targets ih =>
      rw [List.map_cons, List.cons_append, earlyFields]
      split
      · exact List.nil_subset _
      · exact ih

theorem ofTemplate_of_mem {template : Header.Template} {item : Item}
    (part : item ∈ Item.ofTemplate template) : item.OfTemplate := by
  rw [Item.ofTemplate, List.cons_append, List.mem_cons, List.mem_append, List.mem_singleton,
    List.mem_map] at part
  rcases part with rfl | ⟨field, -, rfl⟩ | rfl <;> trivial

/-- Only parts of templates come behind the early fields of a package. -/
theorem ofTemplate_of_later {registry : Registry} {package : Header.Package} {early : EarlyField}
    (member : early ∈ earlyFields scope registry (Item.ofDeclarations package)) {item : Item}
    (later : item ∈ early.later) : item.OfTemplate := by
  have among := (later_suffix_of_earlyFields (earlyFields_imports_subset _ _ _ member)).subset later
  obtain ⟨template, -, part⟩ := List.mem_flatMap.mp among
  exact ofTemplate_of_mem part

/-! ## The comparison -/

/-- Whether two builds have entered the same category under a key. -/
def Agree (key : String) (first second : Progress) : Prop :=
  first.vocabulary.categoryUnder? key = second.vocabulary.categoryUnder? key

theorem agree_add_iff (first second : Progress) (contribution : Contribution) (key : String) :
    Agree key (first.add contribution) (second.add contribution) ↔
      Agree key first second ∨ ∃ edit ∈ contribution.edits, edit.Decides key :=
  Vocabulary.agrees_foldl_iff ..

/-- Whether a field is reported alike before and past an expansion. -/
def EarlyField.ReportedAlike (scope : Scope) (before after : Registry) (early : EarlyField) :
    Prop :=
  fieldMessages scope after early.field = fieldMessages scope before early.field

/-- Whether a field has the same category before and past an expansion. -/
def EarlyField.SortedAlike (scope : Scope) (before after : Registry) (early : EarlyField) : Prop :=
  fieldCategory scope after early.field = fieldCategory scope before early.field

/-- How two builds compare that enter the same items, the first from before an expansion and the
second past it. -/
structure Compares (scope : Scope) (before past : Loader) (items : List Item)
    (first second after done : Progress) : Prop where
  alike : after.vocabulary.uncategorized = done.vocabulary.uncategorized
  fewer : after.messages.Sublist done.messages
  messages : after.messages = done.messages ↔
    first.messages = second.messages ∧
      ∀ early ∈ earlyFields scope before.registry items,
        early.ReportedAlike scope before.registry past.registry
  categories : ∀ key, Agree key after done ↔
    (Agree key first second ∨ Decided scope past items key) ∧
      ∀ early ∈ earlyFields scope before.registry items, early.key = key →
        early.SortedAlike scope before.registry past.registry ∨
          Decided scope past early.later key

namespace Compares

variable {before past : Loader} {item : Item} {items : List Item}
  {first second after done : Progress}

theorem nil (alike : first.vocabulary.uncategorized = second.vocabulary.uncategorized)
    (fewer : first.messages.Sublist second.messages) :
    Compares scope before past [] first second first second where
  alike := alike
  fewer := fewer
  messages := by simp [earlyFields]
  categories := by simp [earlyFields, Decided]

/-- Items that contribute the same to both builds, with no early field among them. -/
theorem of_common (alike : first.vocabulary.uncategorized = second.vocabulary.uncategorized)
    (fewer : first.messages.Sublist second.messages) {contribution : Contribution}
    (decided : ∀ key, (∃ edit ∈ contribution.edits, edit.Decides key) ↔
      Decided scope past items key)
    (late : earlyFields scope before.registry items = []) :
    Compares scope before past items first second (first.add contribution)
      (second.add contribution) where
  alike := Vocabulary.uncategorized_foldl alike _
  fewer := fewer.append (List.Sublist.refl _)
  messages := by
    simp only [late, List.not_mem_nil, false_implies, implies_true, and_true]
    exact List.append_left_inj _
  categories := by
    intro key
    simp only [late, List.not_mem_nil, false_implies, implies_true, and_true]
    rw [agree_add_iff, decided]

/-- An item that contributes the same to both builds. -/
theorem cons_plain (same : earlyFields scope before.registry (item :: items) =
      earlyFields scope before.registry items)
    (rest : Compares scope before past items
      (first.add (item.contribution scope past)) (second.add (item.contribution scope past))
      after done) :
    Compares scope before past (item :: items) first second after done where
  alike := rest.alike
  fewer := rest.fewer
  messages := by
    rw [rest.messages, same]
    exact and_congr_left' (List.append_left_inj _)
  categories := by
    intro key
    rw [rest.categories, same, agree_add_iff, decided_cons_iff, or_assoc]

/-- A field of a template that is resolved before the expansion in the first build. -/
theorem cons_field {type : String} {field : Header.TemplateField}
    (early : earlyFields scope before.registry (.templateField type field :: items) =
      ⟨type, field, items⟩ :: earlyFields scope before.registry items)
    (silent : fieldMessages scope before.registry field = [])
    (fewer : first.messages.Sublist second.messages)
    (rest : Compares scope before past items
      (first.add ((Item.templateField type field).contribution scope before))
      (second.add ((Item.templateField type field).contribution scope past)) after done) :
    Compares scope before past (.templateField type field :: items) first second after done where
  alike := rest.alike
  fewer := rest.fewer
  messages := by
    have reported : (first.add ((Item.templateField type field).contribution scope before)).messages
          = (second.add ((Item.templateField type field).contribution scope past)).messages ↔
        first.messages = second.messages ∧ fieldMessages scope past.registry field = [] := by
      simp only [Progress.add, Item.contribution, silent, List.append_nil]
      constructor
      · intro same
        have longer := fewer.length_le
        rw [same, List.length_append] at longer
        have none : fieldMessages scope past.registry field = [] :=
          List.length_eq_zero_iff.mp (by omega)
        rw [none, List.append_nil] at same
        exact ⟨same, none⟩
      · rintro ⟨same, none⟩
        rw [same, none, List.append_nil]
    rw [rest.messages, reported, early, List.forall_mem_cons, EarlyField.ReportedAlike, silent,
      and_assoc]
  categories := by
    intro key
    have entered : Agree key
          (first.add ((Item.templateField type field).contribution scope before))
          (second.add ((Item.templateField type field).contribution scope past)) ↔
        if Vocabulary.fieldKey type field.name = key then
          fieldCategory scope past.registry field = fieldCategory scope before.registry field
        else Agree key first second := by
      simp only [Agree, Progress.vocabulary, Progress.add, Item.contribution, List.foldl_cons,
        List.foldl_nil, Vocabulary.edit, Vocabulary.categoryUnder?_setFieldType]
      split
      · rw [Option.some.injEq, eq_comm]
      · rfl
    have own : (∃ edit ∈ ((Item.templateField type field).contribution scope past).edits,
        edit.Decides key) ↔ Vocabulary.fieldKey type field.name = key := by
      simp only [Item.contribution, List.mem_singleton, exists_eq_left, Vocabulary.Edit.Decides]
    rw [rest.categories, entered, early, List.forall_mem_cons, decided_cons_iff, own, ← and_assoc]
    refine and_congr_left' ?_
    simp only [EarlyField.key, EarlyField.SortedAlike]
    by_cases same : Vocabulary.fieldKey type field.name = key
    · simp only [same, ↓reduceIte, true_or, or_true, true_and, true_implies]
    · simp only [same, ↓reduceIte, false_or, false_implies, and_true]

end Compares

/-! ## Builds with the same declarations -/

variable {archives : List Archive} {entries : List Archive.Entry} {loader : Loader}

/-- Before an expansion a field whose type is not missing is not reported. -/
theorem fieldMessages_of_known (bare : loader.registry.resources = ∅) {type : String}
    {field : Header.TemplateField}
    (known : ¬ (Item.templateField type field).Missing scope loader) :
    fieldMessages scope loader.registry field = [] := by
  obtain ⟨found, resolved⟩ := Registry.exists_resolve_of_bare bare scope field.typeName
  cases found with
  | none => exact absurd ⟨_, rfl, resolved⟩ known
  | some type => simp only [fieldMessages, resolved]

/-- **Declarations around an expansion.** Of two builds that enter the same declarations, one from
before the expansion and one past it, the first one ends well and compares with the course of the
second one. -/
theorem compares_forEach (unexpanded : Unexpanded archives entries loader)
    {first second : Progress} (ahead : first.loader.cleared = loader.cleared)
    (past : second.loader.cleared = (loader.withEntries entries).cleared)
    (alike : first.vocabulary.uncategorized = second.vocabulary.uncategorized)
    (fewer : first.messages.Sublist second.messages) {items : List Item}
    (declared : ∀ item ∈ items, item.Declared) :
    ∃ after, forEach (enterItem scope archives) items first = (.ok (), after) ∧
      Around loader entries after.loader ∧
      Compares scope loader (loader.withEntries entries) items first second after
        (second.add (course scope second.loader items)) := by
  induction items generalizing first second with
  | nil =>
      refine ⟨first, rfl, .inl ahead, ?_⟩
      rw [course, add_nil]
      exact .nil alike fewer
  | cons item items ih =>
      have own : item.Declared := declared item (List.mem_cons_self ..)
      have rest : ∀ other ∈ items, other.Declared :=
        fun other member => declared other (List.mem_cons_of_mem _ member)
      have registry : first.loader.registry = loader.registry := registry_of_cleared ahead
      by_cases missing : item.Missing scope first.loader
      · -- From here on both builds take the same course.
        have turned : (first.loader.withEntries entries).cleared =
            (loader.withEntries entries).cleared :=
          congrArg (·.withEntries entries) ahead
        rw [forEach_of_missing unexpanded ahead missing, @forEach_of_past scope archives entries
          loader { first with loader := first.loader.withEntries entries } second turned past alike]
        refine ⟨_, rfl, .inr turned, ?_⟩
        have late := earlyFields_of_missing items own missing
        rw [registry] at late
        obtain ⟨same, less, messages, categories⟩ := Compares.of_common alike fewer
          (decides_course_iff past declared) late
        exact ⟨same, less, messages, categories⟩
      · have step : enterItem scope archives item first =
            (.ok (), first.add (item.contribution scope first.loader)) :=
          enterItem_of_known missing
        have before : item.contribution scope first.loader = item.contribution scope loader :=
          contribution_of_declared ahead own
        have after : item.contribution scope second.loader =
            item.contribution scope (loader.withEntries entries) :=
          contribution_of_declared past own
        by_cases plain : ∀ type field, item ≠ .templateField type field
        · have same : item.contribution scope loader =
              item.contribution scope (loader.withEntries entries) := by
            rw [← before, ← after]
            exact (contribution_of_known unexpanded ahead past alike missing plain).symm
          have early := earlyFields_of_plain items missing plain
          rw [registry] at early
          obtain ⟨final, done, around, compares⟩ := @ih
            (first.add (item.contribution scope (loader.withEntries entries)))
            (second.add (item.contribution scope (loader.withEntries entries))) ahead past
            (Vocabulary.uncategorized_foldl alike _) (fewer.append (List.Sublist.refl _)) rest
          refine ⟨final, ?_, around, ?_⟩
          · rw [forEach_cons, step, before, same]
            exact done
          · rw [← add_course_cons, after]
            exact .cons_plain early compares
        · push Not at plain
          obtain ⟨type, field, rfl⟩ := plain
          have early := earlyFields_of_field items missing
          have silent := fieldMessages_of_known (registry ▸ unexpanded.bare) missing
          rw [registry] at early silent
          have told : (first.add ((Item.templateField type field).contribution scope
                loader)).messages.Sublist
              (second.add ((Item.templateField type field).contribution scope
                (loader.withEntries entries))).messages := by
            simp only [Progress.add, Item.contribution, silent, List.append_nil]
            exact fewer.trans (List.sublist_append_left _ _)
          obtain ⟨final, done, around, compares⟩ := @ih
            (first.add ((Item.templateField type field).contribution scope loader))
            (second.add ((Item.templateField type field).contribution scope
              (loader.withEntries entries))) ahead past alike told rest
          refine ⟨final, ?_, around, ?_⟩
          · rw [forEach_cons, step, before]
            exact done
          · rw [← add_course_cons, after]
            exact .cons_field early silent fewer compares

end RuleVocabulary.Loader
