import RuleVocabulary.Proofs.Loader.Item
import RuleVocabulary.Proofs.Loader.Run
import RuleVocabulary.Proofs.Vocabulary

/-!
# Items whose archives are out of reach

Where archives are expanded, or there are none, no item fails, and what a sequence of items
contributes can be told in advance (`course`, `forEach_of_spent`). It depends on the draft of the
loader through the names of the fields that are known, not through categories (`course_congr`).
The items of imports and templates do not depend on the draft at all (`edits_course`).
-/

set_option autoImplicit false

namespace RuleVocabulary.Loader

variable {scope : Scope} {archives : List Archive}

/-! ## Searches -/

/-- Only an item whose type is missing reaches for archives. -/
theorem searchedFor_of_known {loader : Loader} {item : Item}
    (known : ¬ item.Missing scope loader) :
    searchedFor scope archives loader item = .ok loader := by
  unfold searchedFor
  split
  · rfl
  · rename_i find sought
    exact searched_of_hit fun miss => known ⟨find, sought, miss⟩

theorem searchedFor_of_missing {loader : Loader} {item : Item}
    (missing : item.Missing scope loader) :
    searchedFor scope archives loader item = loader.expanded archives := by
  obtain ⟨find, sought, miss⟩ := missing
  simp only [searchedFor, sought, searched_of_miss miss]

theorem searchedFor_of_spent {loader : Loader} (item : Item)
    (spent : loader.expander.expanded = true ∨ archives = []) :
    searchedFor scope archives loader item = .ok loader := by
  by_cases missing : item.Missing scope loader
  · rw [searchedFor_of_missing missing, expanded_of_spent spent]
  · exact searchedFor_of_known missing

/-- An item whose type is known contributes at once. -/
theorem enterItem_of_known {item : Item} {progress : Progress}
    (known : ¬ item.Missing scope progress.loader) :
    enterItem scope archives item progress =
      (.ok (), progress.add (item.contribution scope progress.loader)) := by
  simp only [enterItem, searchedFor_of_known known]

/-- Where archives are out of reach every item contributes at once. -/
theorem enterItem_of_spent {progress : Progress} (item : Item)
    (spent : progress.loader.expander.expanded = true ∨ archives = []) :
    enterItem scope archives item progress =
      (.ok (), progress.add (item.contribution scope progress.loader)) := by
  simp only [enterItem, searchedFor_of_spent item spent]

/-! ## Courses -/

/-- What items contribute one after the other where archives are out of reach. -/
def course (scope : Scope) (loader : Loader) : List Item → Contribution
  | [] => ⟨[], []⟩
  | item :: items =>
    let first := item.contribution scope loader
    let later := course scope
      { loader with draft := first.edits.foldl Vocabulary.edit loader.draft } items
    ⟨first.edits ++ later.edits, first.messages ++ later.messages⟩

theorem add_nil (progress : Progress) : progress.add ⟨[], []⟩ = progress := by
  simp only [Progress.add, List.foldl_nil, List.append_nil]

theorem add_add (progress : Progress) (first later : Contribution) :
    (progress.add first).add later =
      progress.add ⟨first.edits ++ later.edits, first.messages ++ later.messages⟩ := by
  simp only [Progress.add, List.foldl_append, List.append_assoc]

theorem add_course_cons (progress : Progress) (item : Item) (items : List Item) :
    let entered := progress.add (item.contribution scope progress.loader)
    entered.add (course scope entered.loader items) =
      progress.add (course scope progress.loader (item :: items)) :=
  add_add ..

/-- **Where archives are out of reach, items take their course.** -/
theorem forEach_of_spent (items : List Item) {progress : Progress}
    (spent : progress.loader.expander.expanded = true ∨ archives = []) :
    forEach (enterItem scope archives) items progress =
      (.ok (), progress.add (course scope progress.loader items)) := by
  induction items generalizing progress with
  | nil =>
      rw [course, add_nil]
      rfl
  | cons item items ih =>
      rw [forEach_cons, enterItem_of_spent item spent, ← add_course_cons]
      exact ih spent

/-! ## What a course depends on -/

/-- Whether an item stands for an import or a part of a template. -/
def Item.Declared (item : Item) : Prop :=
  ∀ global, item ≠ .bound global

/-- Of a draft a contribution depends on the types for which fields are known. -/
theorem contribution_of_hasFields {first second : Loader} (same : first.cleared = second.cleared)
    (known : ∀ type, first.draft.hasFields type = second.draft.hasFields type) (item : Item) :
    item.contribution scope first = item.contribution scope second := by
  have registry := registry_of_cleared same
  have settings := settings_of_cleared same
  cases item <;> simp only [Item.contribution, registry, settings, known]

/-- A contribution does not depend on the categories entered before. -/
theorem contribution_congr {first second : Loader} (same : first.cleared = second.cleared)
    (alike : first.draft.uncategorized = second.draft.uncategorized) (item : Item) :
    item.contribution scope first = item.contribution scope second :=
  contribution_of_hasFields same (Vocabulary.hasFields_of_uncategorized alike) item

/-- What an import or a part of a template contributes does not depend on the draft. -/
theorem contribution_of_declared {first second : Loader} (same : first.cleared = second.cleared)
    {item : Item} (declared : item.Declared) :
    item.contribution scope first = item.contribution scope second := by
  have registry := registry_of_cleared same
  have settings := settings_of_cleared same
  cases item with
  | bound global => exact absurd rfl (declared global)
  | _ => simp only [Item.contribution, registry, settings]

theorem course_congr {first second : Loader} (same : first.cleared = second.cleared)
    (alike : first.draft.uncategorized = second.draft.uncategorized) (items : List Item) :
    course scope first items = course scope second items := by
  induction items generalizing first second with
  | nil => rfl
  | cons item items ih =>
      have contributed := @contribution_congr scope first second same alike item
      have later : ∀ edits : List Vocabulary.Edit,
          course scope { first with draft := edits.foldl Vocabulary.edit first.draft } items =
            course scope { second with draft := edits.foldl Vocabulary.edit second.draft } items :=
        fun edits => ih same (Vocabulary.uncategorized_foldl alike edits)
      rw [course, course, contributed, later]

/-- The edits of imports and templates, item by item. -/
theorem edits_course {first second : Loader} (same : first.cleared = second.cleared)
    {items : List Item} (declared : ∀ item ∈ items, item.Declared) :
    (course scope first items).edits =
      items.flatMap fun item => (item.contribution scope second).edits := by
  induction items generalizing first with
  | nil => rfl
  | cons item items ih =>
      have own := @contribution_of_declared scope first second same item
        (declared item (List.mem_cons_self ..))
      have rest : ∀ other ∈ items, other.Declared :=
        fun other member => declared other (List.mem_cons_of_mem _ member)
      have later : ∀ draft : Vocabulary,
          (course scope { first with draft := draft } items).edits =
            items.flatMap fun item => (item.contribution scope second).edits :=
        fun draft => ih same rest
      rw [course, List.flatMap_cons, own, later]

end RuleVocabulary.Loader
