import RuleVocabulary.Proofs.Loader.Entries
import RuleVocabulary.Proofs.Loader.Trail

/-!
# What each part of a build leaves alone

Apart from types an item enters what it binds, and nothing else (`untyped_of_enterItem`). So the
globals of a vocabulary are bound one after the other, whatever becomes of their types
(`untyped_of_entered`), and no item enters a sentence (`sentences_of_entered`). Mapping files in
turn enter sentences and touch nothing else (`enterSentences_eq`).

Main statement: builds that differ in their mapping files alone differ in their sentences alone
(`mapping_files_do_not_interfere`).
-/

set_option autoImplicit false

namespace RuleVocabulary

/-- An outcome without its sentences. -/
def Outcome.withoutSentences (outcome : Outcome) : Outcome :=
  { outcome with
    vocabulary := { outcome.vocabulary with conditionSentences := [], actionSentences := [] } }

namespace Loader

variable {scope : Scope} {archives : List Archive}

/-! ## Items -/

/-- Bindings do not depend on types. -/
theorem untyped_foldl_bindings (item : Item) (vocabulary : Vocabulary) :
    ((item.bindings scope).foldl Vocabulary.edit vocabulary).untyped =
      (item.bindings scope).foldl Vocabulary.edit vocabulary.untyped := by
  cases item <;> rfl

theorem untyped_of_enterItem {item : Item} {progress after : Progress}
    (done : enterItem scope archives item progress = (.ok (), after)) :
    after.vocabulary.untyped =
      (item.bindings scope).foldl Vocabulary.edit progress.vocabulary.untyped := by
  obtain ⟨edits, concern, made⟩ := @exists_edits_eq scope
    { after.loader with draft := progress.vocabulary } item
  rw [vocabulary_of_enterItem done, made, List.foldl_append, untyped_foldl_bindings,
    Vocabulary.untyped_foldl concern]

/-! ## Builds -/

/-- **A sequence of items binds what the items bind**, and enters types besides. -/
theorem untyped_of_forEach {items : List Item} {progress final : Progress}
    (done : forEach (enterItem scope archives) items progress = (.ok (), final)) :
    final.vocabulary.untyped =
      (items.flatMap (Item.bindings scope)).foldl Vocabulary.edit progress.vocabulary.untyped := by
  induction items generalizing progress with
  | nil =>
      cases done
      rfl
  | cons item items ih =>
      rw [forEach_cons] at done
      split at done
      · cases done
      · rename_i after stepped
        rw [ih done, untyped_of_enterItem stepped, List.flatMap_cons, List.foldl_append]

/-- The globals of a package, bound in order. -/
def bindings (scope : Scope) (globals : List Header.Global) : List Vocabulary.Edit :=
  globals.map fun global => .global global.identifier (Item.globalType scope global)

theorem flatMap_bindings_ofPackage (package : Header.Package) :
    (Item.ofPackage package).flatMap (Item.bindings scope) = bindings scope package.globals := by
  have declarations : (Item.ofDeclarations package).flatMap (Item.bindings scope) = [] := by
    rw [List.flatMap_eq_nil_iff]
    intro item member
    have declared := declared_of_ofDeclarations member
    cases item with
    | bound global => exact absurd rfl (declared global)
    | _ => rfl
  rw [Item.ofPackage, List.flatMap_append, declarations, List.nil_append, List.flatMap_map,
    bindings, List.map_eq_flatMap]
  rfl

/-- What has been entered of a package apart from types are its globals. -/
theorem untyped_of_entered {loader : Loader} {reading : Header.Reading} {after : Progress}
    (done : entered loader archives reading = (.ok (), after)) :
    after.vocabulary.untyped =
      .ofEdits (bindings (packageScope loader.settings reading.package)
        reading.package.globals) := by
  rw [untyped_of_forEach done, flatMap_bindings_ofPackage]
  rfl

/-- Globals are no sentences. -/
theorem sentences_foldl_bindings (scope : Scope) (globals : List Header.Global)
    (vocabulary : Vocabulary) :
    let bound := (bindings scope globals).foldl Vocabulary.edit vocabulary
    bound.conditionSentences = vocabulary.conditionSentences ∧
      bound.actionSentences = vocabulary.actionSentences := by
  induction globals generalizing vocabulary with
  | nil => exact ⟨rfl, rfl⟩
  | cons global globals ih => exact ih (vocabulary.bindGlobal _ _)

/-- No item of a package enters a sentence. -/
theorem sentences_of_entered {loader : Loader} {reading : Header.Reading} {after : Progress}
    (done : entered loader archives reading = (.ok (), after)) :
    after.vocabulary.conditionSentences = [] ∧ after.vocabulary.actionSentences = [] := by
  have none := sentences_foldl_bindings (packageScope loader.settings reading.package)
    reading.package.globals .empty
  have same := untyped_of_entered done
  show after.vocabulary.untyped.conditionSentences = [] ∧
    after.vocabulary.untyped.actionSentences = []
  rw [same]
  exact none

/-! ## Mapping files -/

/-- A header that declares nothing makes a build enter nothing but sentences. -/
theorem build_of_nothing {header : String} {problems : List Header.Problem}
    (nothing : declared header = .ok ⟨⟨none, [], [], [], []⟩, problems⟩) (loader : Loader)
    (archives : List Archive) (files : List Mapping.File) :
    loader.build header archives files =
      (.ok ⟨enterSentences files .empty, problems.map Header.Problem.message⟩,
        { loader with draft := enterSentences files .empty }) := by
  have finished : entered loader archives ⟨⟨none, [], [], [], []⟩, problems⟩ =
      (.ok (), begun loader ⟨⟨none, [], [], [], []⟩, problems⟩) := rfl
  exact build_of_entered nothing finished files

theorem declared_of_blank {header : String} (blank : Text.trim header.toList = []) :
    declared header = .ok ⟨⟨none, [], [], [], []⟩, []⟩ := by
  refine if_pos ?_
  rw [blank]
  rfl

/-- The sentences of a build are those of its mapping files. -/
theorem sentences_of_build {loader : Loader} {header : String} {files : List Mapping.File}
    {outcome : Outcome} (built : (loader.build header archives files).1 = .ok outcome) :
    outcome.vocabulary.conditionSentences = sentencesOf .condition files ∧
      outcome.vocabulary.actionSentences = sentencesOf .consequence files := by
  obtain ⟨reading, after, -, done, rfl⟩ := entered_of_build built
  obtain ⟨conditions, actions⟩ := sentences_of_entered done
  rw [enterSentences_eq, conditions, actions]
  exact ⟨rfl, rfl⟩

theorem withoutSentences_enterSentences (files : List Mapping.File) (vocabulary : Vocabulary)
    (messages : List String) :
    Outcome.withoutSentences ⟨enterSentences files vocabulary, messages⟩ =
      Outcome.withoutSentences ⟨vocabulary, messages⟩ := by
  rw [enterSentences_eq]
  rfl

/-- **Mapping files do not interfere with the rest of a build.** Builds with different mapping files
fail alike, or their outcomes differ in sentences alone, and they leave the same registry and the
same expander. The sentences are those of the two sections in the order of the files, whatever the
header and the archives are. With a blank header there is nothing but sentences. -/
theorem mapping_files_do_not_interfere (loader : Loader) (header : String)
    (archives : List Archive) (files others : List Mapping.File) :
    let built := loader.build header archives files
    let other := loader.build header archives others
    (other.1.map Outcome.withoutSentences = built.1.map Outcome.withoutSentences ∧
      other.2.registry = built.2.registry ∧ other.2.expander = built.2.expander) ∧
    (∀ outcome, built.1 = .ok outcome →
      outcome.vocabulary.conditionSentences = sentencesOf .condition files ∧
        outcome.vocabulary.actionSentences = sentencesOf .consequence files) ∧
    (Text.trim header.toList = [] →
      built.1 = .ok ⟨⟨[], ∅, ∅, ∅, sentencesOf .condition files,
        sentencesOf .consequence files⟩, []⟩ ∧
      built.2.registry = loader.registry ∧ built.2.expander = loader.expander) := by
  intro built other
  refine ⟨?_, fun outcome => sentences_of_build, ?_⟩
  · simp only [built, other, build_eq]
    cases declared header with
    | error fault => exact ⟨rfl, rfl, rfl⟩
    | ok reading =>
        simp only
        rcases entered loader archives reading with ⟨fault | done, after⟩
        · exact ⟨rfl, rfl, rfl⟩
        · refine ⟨?_, rfl, rfl⟩
          simp only [Except.map, withoutSentences_enterSentences]
  · intro blank
    have sentences : built = _ := build_of_nothing (declared_of_blank blank) loader archives files
    rw [enterSentences_eq] at sentences
    rw [sentences]
    exact ⟨rfl, rfl, rfl⟩

/-- A mapping file whose entries belong to three sections. -/
def mapped : Mapping.File :=
  .ofText "[when]there is a T=T()\n[then]stop=halt();\n[keyword]rule=rule\n[when]there is a T=T(x)"

/-- The sentences are those of conditions and consequences, repeated ones included. -/
theorem blank_header_offers_sentences :
    ((ofSettings .default).build " \n" [] [mapped]).1 =
      .ok ⟨⟨[], ∅, ∅, ∅, ["there is a T", "there is a T"], ["stop"]⟩, []⟩ := by
  have sentences :=
    ((mapping_files_do_not_interfere (ofSettings .default) " \n" [] [mapped] []).2.2
      (by decide)).1
  rw [sentences]
  decide +kernel

end Loader

end RuleVocabulary
