import Mathlib.Data.List.Nodup
import RuleVocabulary.Proofs.Imports
import RuleVocabulary.Proofs.Loader.Course

/-!
# Alike up to the order of fact types and messages

Two vocabularies are alike if they differ at most in the order in which they list their fact types.
The entries of a table are decided by the edits that touch them, so edits that are reordered in
between make vocabularies alike (`Vocabulary.alike_of_reordered`).

Two builds are alike if they differ at most in that order and in the order of their messages. An
item reads neither, so builds that are alike stay so, item by item (`alike_enterItem`,
`alike_forEach`).
-/

set_option autoImplicit false

namespace RuleVocabulary

namespace Vocabulary

/-- Vocabularies that are equal up to the order in which fact types are listed. -/
structure Alike (first second : Vocabulary) : Prop where
  factTypes : second.factTypes.Perm first.factTypes
  fields : second.fields = first.fields
  fieldTypes : second.fieldTypes = first.fieldTypes
  globals : second.globals = first.globals
  conditionSentences : second.conditionSentences = first.conditionSentences
  actionSentences : second.actionSentences = first.actionSentences

variable {first second : Vocabulary}

theorem Alike.refl (vocabulary : Vocabulary) : Alike vocabulary vocabulary :=
  ⟨.refl _, rfl, rfl, rfl, rfl, rfl⟩

theorem Alike.hasFields (alike : Alike first second) (type : String) :
    second.hasFields type = first.hasFields type :=
  congrArg (·.contains type) alike.fields

theorem Alike.edit (alike : Alike first second) (edit : Edit) :
    Alike (first.edit edit) (second.edit edit) := by
  obtain ⟨factTypes, fields, fieldTypes, globals, conditions, actions⟩ := alike
  cases edit with
  | factType name =>
      simp only [Vocabulary.edit, addFactType_eq]
      refine ⟨?_, fields, fieldTypes, globals, conditions, actions⟩
      simp only [factTypes.mem_iff]
      split
      · exact factTypes
      · exact factTypes.append_right [name]
  | fields type names =>
      exact ⟨factTypes, congrArg (·.insert type names) fields, fieldTypes, globals, conditions,
        actions⟩
  | fieldType key category =>
      exact ⟨factTypes, fields, congrArg (·.insert key category) fieldTypes, globals, conditions,
        actions⟩
  | global identifier type =>
      exact ⟨factTypes, fields, fieldTypes, congrArg (·.insert identifier type) globals, conditions,
        actions⟩
  | condition sentence =>
      exact ⟨factTypes, fields, fieldTypes, globals, congrArg (· ++ [sentence]) conditions, actions⟩
  | action sentence =>
      exact ⟨factTypes, fields, fieldTypes, globals, conditions, congrArg (· ++ [sentence]) actions⟩
  | reset => exact .refl _

theorem Alike.foldl (alike : Alike first second) (edits : List Edit) :
    Alike (edits.foldl Vocabulary.edit first) (edits.foldl Vocabulary.edit second) := by
  induction edits generalizing first second with
  | nil => exact alike
  | cons edit edits ih => exact ih (alike.edit edit)

/-! ## Edits in another order -/

/-- Whether an edit sets the fields of a type. -/
def Edit.Sets (type : String) : Edit → Prop
  | .fields set _ => set = type
  | .reset => True
  | .factType _ | .fieldType .. | .global .. | .condition _ | .action _ => False

instance (type : String) : DecidablePred (Edit.Sets type)
  | .fields set _ => inferInstanceAs (Decidable (set = type))
  | .reset => .isTrue trivial
  | .factType _ | .fieldType .. | .global .. | .condition _ | .action _ => .isFalse id

instance (key : String) : DecidablePred (Edit.Decides key)
  | .fieldType decided _ => inferInstanceAs (Decidable (decided = key))
  | .reset => .isTrue trivial
  | .factType _ | .fields .. | .global .. | .condition _ | .action _ => .isFalse id

/-- The fields of a type are those that an edit sets for it, or those from before. -/
theorem fields?_edit (vocabulary : Vocabulary) (edit : Edit) (type : String) :
    (vocabulary.edit edit).fields? type =
      if edit.Sets type then (empty.edit edit).fields? type else vocabulary.fields? type := by
  cases edit with
  | fields set names =>
      simp only [Vocabulary.edit, fields?_setFields, Edit.Sets]
      split <;> rfl
  | reset => exact (if_pos trivial).symm
  | factType name =>
      simp only [Vocabulary.edit, addFactType_eq]
      exact (if_neg id).symm
  | fieldType key category => exact (if_neg id).symm
  | global identifier type => exact (if_neg id).symm
  | condition sentence => exact (if_neg id).symm
  | action sentence => exact (if_neg id).symm

/-- The category under a key is the one that an edit decides for it, or the one from before. -/
theorem categoryUnder?_edit (vocabulary : Vocabulary) (edit : Edit) (key : String) :
    (vocabulary.edit edit).categoryUnder? key =
      if edit.Decides key then (empty.edit edit).categoryUnder? key
      else vocabulary.categoryUnder? key := by
  cases edit with
  | fieldType decided category =>
      simp only [Vocabulary.edit, categoryUnder?_setFieldType, Edit.Decides]
      split <;> rfl
  | reset => exact (if_pos trivial).symm
  | factType name =>
      simp only [Vocabulary.edit, addFactType_eq]
      exact (if_neg id).symm
  | fields type names => exact (if_neg id).symm
  | global identifier type => exact (if_neg id).symm
  | condition sentence => exact (if_neg id).symm
  | action sentence => exact (if_neg id).symm

/-- Fact types stay different under edits. -/
theorem nodup_factTypes_foldl (edits : List Edit) {vocabulary : Vocabulary}
    (different : vocabulary.factTypes.Nodup) :
    (edits.foldl edit vocabulary).factTypes.Nodup := by
  induction edits generalizing vocabulary with
  | nil => exact different
  | cons edit edits ih =>
      refine ih ?_
      cases edit with
      | factType name =>
          simp only [Vocabulary.edit, addFactType_eq]
          split
          · exact different
          · rename_i new
            exact List.Nodup.append different (List.nodup_singleton name)
              (List.disjoint_singleton.mpr new)
      | reset => exact List.nodup_nil
      | fields type names => exact different
      | fieldType key category => exact different
      | global identifier type => exact different
      | condition sentence => exact different
      | action sentence => exact different

/-- Edits of types in another order, in which those of each entry keep theirs. -/
structure Reordered (edits others : List Edit) : Prop where
  perm : others.Perm edits
  concern : ∀ edit ∈ edits, edit.OfType
  sets : ∀ type, others.filter (Edit.Sets type) = edits.filter (Edit.Sets type)
  decides : ∀ key, others.filter (Edit.Decides key) = edits.filter (Edit.Decides key)

/-- **Edits in another order make vocabularies alike**, if those of each entry keep their order. -/
theorem alike_of_reordered {edits others : List Edit} (reordered : Reordered edits others)
    {vocabulary : Vocabulary} (different : vocabulary.factTypes.Nodup) :
    Alike (edits.foldl edit vocabulary) (others.foldl edit vocabulary) := by
  have concern : ∀ edit ∈ others, edit.OfType :=
    fun edit member => reordered.concern edit (reordered.perm.mem_iff.mp member)
  have untyped : (others.foldl edit vocabulary).untyped =
      (edits.foldl edit vocabulary).untyped := by
    rw [untyped_foldl concern, untyped_foldl reordered.concern]
  have fields : (others.foldl edit vocabulary).fields = (edits.foldl edit vocabulary).fields := by
    refine Std.ExtTreeMap.ext_getElem? fun type => ?_
    refine @foldl_congr_filter_of_sets _ _ _ edit (fields? · type) _
      (fun edit => (empty.edit edit).fields? type) ?_ _ _ (reordered.sets type) vocabulary
    intro vocabulary edit
    simp only [decide_eq_true_eq]
    exact fields?_edit vocabulary edit type
  have fieldTypes : (others.foldl edit vocabulary).fieldTypes =
      (edits.foldl edit vocabulary).fieldTypes := by
    refine Std.ExtTreeMap.ext_getElem? fun key => ?_
    refine @foldl_congr_filter_of_sets _ _ _ edit (categoryUnder? · key) _
      (fun edit => (empty.edit edit).categoryUnder? key) ?_ _ _ (reordered.decides key) vocabulary
    intro vocabulary edit
    simp only [decide_eq_true_eq]
    exact categoryUnder?_edit vocabulary edit key
  have factTypes : (others.foldl edit vocabulary).factTypes.Perm
      (edits.foldl edit vocabulary).factTypes := by
    rw [List.perm_ext_iff_of_nodup (nodup_factTypes_foldl others different)
      (nodup_factTypes_foldl edits different)]
    intro name
    rw [mem_factTypes_foldl fun reset => concern _ reset,
      mem_factTypes_foldl fun reset => reordered.concern _ reset, reordered.perm.mem_iff]
  simp only [Vocabulary.untyped, mk.injEq, true_and] at untyped
  obtain ⟨globals, conditions, actions⟩ := untyped
  exact ⟨factTypes, fields, fieldTypes, globals, conditions, actions⟩

end Vocabulary

namespace Loader

variable {scope : Scope} {archives : List Archive}

/-! ## Loaders with another draft -/

/-- The loader with another draft. -/
def drafted (loader : Loader) (draft : Vocabulary) : Loader :=
  { loader with draft := draft }

theorem eq_drafted_of_cleared {first second : Loader} (same : second.cleared = first.cleared) :
    second = first.drafted second.draft := by
  cases first
  cases second
  simp only [cleared, mk.injEq] at same
  obtain ⟨rfl, rfl, rfl, -⟩ := same
  rfl

theorem expanded_drafted (loader : Loader) (draft : Vocabulary) (archives : List Archive) :
    (loader.drafted draft).expanded archives =
      (loader.expanded archives).map (·.drafted draft) := by
  have reads : (loader.drafted draft).expander.expandInto archives (loader.drafted draft).registry =
      loader.expander.expandInto archives loader.registry := rfl
  unfold expanded
  rw [reads]
  cases loader.expander.expandInto archives loader.registry with
  | error fault => rfl
  | ok result => rfl

theorem searched_drafted (loader : Loader) (draft : Vocabulary) (archives : List Archive)
    (find : Registry → Except Fault (Option Descriptor)) :
    (loader.drafted draft).searched archives find =
      (loader.searched archives find).map (·.drafted draft) := by
  by_cases miss : find loader.registry = .ok none
  · rw [searched_of_miss miss, @searched_of_miss (loader.drafted draft) archives find miss,
      expanded_drafted]
  · rw [searched_of_hit miss, @searched_of_hit (loader.drafted draft) archives find miss]
    rfl

/-- Of a draft a search reads for which types fields are known. -/
theorem searchedFor_drafted {loader : Loader} {draft : Vocabulary}
    (known : ∀ type, draft.hasFields type = loader.draft.hasFields type) (item : Item) :
    searchedFor scope archives (loader.drafted draft) item =
      (searchedFor scope archives loader item).map (·.drafted draft) := by
  have sought : item.find? scope draft = item.find? scope loader.draft := by
    cases item <;> simp only [Item.find?, known]
  have same : (loader.drafted draft).draft = draft := rfl
  unfold searchedFor
  rw [same, sought]
  split
  · rfl
  · exact searched_drafted ..

/-! ## Builds -/

/-- Builds that are equal up to the order of fact types and of messages. -/
structure Progress.Alike (first second : Progress) : Prop where
  loader : second.loader.cleared = first.loader.cleared
  vocabulary : first.vocabulary.Alike second.vocabulary
  messages : second.messages.Perm first.messages

variable {first second : Progress}

theorem Progress.Alike.add (alike : first.Alike second) (contribution : Contribution) :
    (first.add contribution).Alike (second.add contribution) where
  loader := alike.loader
  vocabulary := alike.vocabulary.foldl contribution.edits
  messages := alike.messages.append_right contribution.messages

/-- Where a build searches, one that is alike finds the same. -/
theorem Progress.Alike.searched (alike : first.Alike second) {loader : Loader}
    (kept : loader.draft = first.loader.draft) :
    ({ first with loader := loader } : Progress).Alike
      { second with loader := loader.drafted second.loader.draft } where
  loader := rfl
  vocabulary := by
    show loader.draft.Alike second.loader.draft
    rw [kept]
    exact alike.vocabulary
  messages := alike.messages

/-- **An item keeps builds alike.** -/
theorem alike_enterItem (alike : first.Alike second) (item : Item) :
    (enterItem scope archives item second).1 = (enterItem scope archives item first).1 ∧
      (enterItem scope archives item first).2.Alike (enterItem scope archives item second).2 := by
  have known := alike.vocabulary.hasFields
  have drafted := eq_drafted_of_cleared alike.loader
  have searched : searchedFor scope archives second.loader item =
      (searchedFor scope archives first.loader item).map (·.drafted second.loader.draft) := by
    rw [drafted]
    exact searchedFor_drafted known item
  unfold enterItem
  rw [searched]
  cases found : searchedFor scope archives first.loader item with
  | error fault => exact ⟨rfl, alike⟩
  | ok loader =>
      have kept := draft_of_searchedFor found
      have same : (loader.drafted second.loader.draft).cleared = loader.cleared := rfl
      have contributed : item.contribution scope (loader.drafted second.loader.draft) =
          item.contribution scope loader := by
        refine contribution_of_hasFields same ?_ item
        intro type
        rw [kept]
        exact known type
      refine ⟨rfl, ?_⟩
      simp only [Except.map, contributed]
      exact (alike.searched kept).add (item.contribution scope loader)

/-- **Steps that keep builds alike keep them so one after the other.** -/
theorem alike_forEach {α : Type} {step : α → Step Unit}
    (steps : ∀ element (first second : Progress), first.Alike second →
      (step element second).1 = (step element first).1 ∧
        (step element first).2.Alike (step element second).2)
    (alike : first.Alike second) (elements : List α) :
    (forEach step elements second).1 = (forEach step elements first).1 ∧
      (forEach step elements first).2.Alike (forEach step elements second).2 := by
  induction elements generalizing first second with
  | nil => exact ⟨rfl, alike⟩
  | cons element elements ih =>
      obtain ⟨answer, left⟩ := steps element first second alike
      rw [forEach_cons, forEach_cons]
      generalize step element first = one at *
      generalize step element second = other at *
      obtain ⟨_, final⟩ := other
      obtain ⟨fault | done, after⟩ := one
      · obtain rfl := answer
        exact ⟨rfl, left⟩
      · obtain rfl := answer
        exact ih left

end Loader

end RuleVocabulary
