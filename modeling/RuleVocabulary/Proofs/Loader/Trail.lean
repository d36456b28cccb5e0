import RuleVocabulary.Proofs.Loader.Advance

/-!
# The states that a build goes through

A build that ends well has entered its imports, its templates and its globals, one by one
(`stages_of_build`). The trail of such a sequence pairs each element with the state in which the
step for it leaves the build. A step changes the registry by its own search only, so the registry of
that state is the one in which the element was looked up in the end.

What a step keeps, told of the elements seen so far and the state that they lead to, a sequence
keeps, told of its trail (`keeps_along`).
-/

set_option autoImplicit false

namespace RuleVocabulary.Loader

/-! ## Trails -/

section Trails

variable {α : Type} {step : α → Step Unit}

/-- The elements of a sequence, each with the state in which the step for it leaves the build. -/
def trail (step : α → Step Unit) : List α → Progress → List (α × Progress)
  | [], _ => []
  | element :: elements, progress =>
    (element, (step element progress).2) :: trail step elements (step element progress).2

theorem map_fst_trail (step : α → Step Unit) (elements : List α) (progress : Progress) :
    (trail step elements progress).map Prod.fst = elements := by
  induction elements generalizing progress with
  | nil => rfl
  | cons element elements ih => rw [trail, List.map_cons, ih]

/-- **What each step keeps, a sequence keeps.** -/
theorem keeps_along {motive : List (α × Progress) → Progress → Prop}
    (steps : ∀ seen element progress after, motive seen progress →
      step element progress = (.ok (), after) → motive (seen ++ [(element, after)]) after)
    {elements : List α} {progress final : Progress} (begins : motive [] progress)
    (done : forEach step elements progress = (.ok (), final)) :
    motive (trail step elements progress) final := by
  induction elements generalizing motive progress with
  | nil =>
      cases done
      exact begins
  | cons element elements ih =>
      rw [forEach_cons] at done
      split at done
      · cases done
      · rename_i after stepped
        rw [trail, stepped]
        -- The rest of the sequence is seen behind this element.
        refine ih (motive := fun seen => motive ((element, after) :: seen)) ?_ ?_ done
        · intro seen other between next kept entered
          exact steps ((element, after) :: seen) other between next kept entered
        · exact steps [] element progress after begins stepped

theorem settings_of_forEach
    (kept : ∀ element progress, (step element progress).2.settings = progress.settings)
    (elements : List α) (progress : Progress) :
    (forEach step elements progress).2.settings = progress.settings :=
  relates_of_forEach (motive := fun before after => after.settings = before.settings)
    (fun _ => rfl) (fun _ _ _ first later => later.trans first) kept elements progress

theorem settings_of_trail
    (kept : ∀ element progress, (step element progress).2.settings = progress.settings)
    {elements : List α} {progress : Progress} {element : α} {after : Progress}
    (member : (element, after) ∈ trail step elements progress) :
    after.settings = progress.settings := by
  induction elements generalizing progress with
  | nil => cases member
  | cons first elements ih =>
      rcases List.mem_cons.mp member with here | later
      · cases here
        exact kept element progress
      · exact (ih later).trans (kept first progress)

end Trails

/-! ## Steps -/

variable {scope : Scope} {archives : List Archive}

/-- What an item has entered that did not fail. Its contribution is told by the registry left. -/
theorem vocabulary_of_enterItem {item : Item} {progress after : Progress}
    (done : enterItem scope archives item progress = (.ok (), after)) :
    after.vocabulary =
      (item.contribution scope { after.loader with draft := progress.vocabulary }).edits.foldl
        Vocabulary.edit progress.vocabulary := by
  obtain ⟨loader, searched, rfl⟩ := enterItem_eq_ok done
  have draft : loader.draft = progress.vocabulary := draft_of_searchedFor searched
  rw [← draft]
  rfl

theorem settings_of_enterItem (item : Item) (progress : Progress) :
    (enterItem scope archives item progress).2.settings = progress.settings :=
  (advance_enterItem item progress).settings

theorem settings_of_importType (target : String) (progress : Progress) :
    (importType archives target progress).2.settings = progress.settings := by
  cases whole : Name.isWildcard target with
  | true => rw [importType, if_pos whole]
  | false =>
      rw [@importType_eq ⟨.none, progress.settings⟩ archives target whole]
      exact settings_of_enterItem _ _

theorem settings_of_enterTemplate (template : Header.Template) (progress : Progress) :
    (enterTemplate scope archives template progress).2.settings = progress.settings := by
  rw [enterTemplate_eq]
  exact settings_of_forEach settings_of_enterItem _ _

theorem settings_of_enterGlobal (global : Header.Global) (progress : Progress) :
    (enterGlobal scope archives global progress).2.settings = progress.settings := by
  rw [enterGlobal_eq]
  exact settings_of_enterItem _ _

/-! ## Builds -/

section Stages

variable (archives : List Archive) (package : Header.Package) (progress : Progress)

/-- A build with the imports of its package entered. -/
def importsEntered : Progress :=
  (forEach (importType archives) package.imports progress).2

/-- A build with the imports and the templates of its package entered. -/
def templatesEntered : Progress :=
  (forEach (enterTemplate (packageScope progress.settings package) archives) package.templates
    (importsEntered archives package progress)).2

/-- The imports of a package and the states that they lead to. -/
def importTrail : List (String × Progress) :=
  trail (importType archives) package.imports progress

/-- The globals of a package and the states that they lead to. -/
def globalTrail : List (Header.Global × Progress) :=
  trail (enterGlobal (packageScope progress.settings package) archives) package.globals
    (templatesEntered archives package progress)

variable {archives package progress}

theorem settings_of_importTrail {target : String} {after : Progress}
    (member : (target, after) ∈ importTrail archives package progress) :
    after.settings = progress.settings :=
  settings_of_trail settings_of_importType member

theorem settings_of_globalTrail {global : Header.Global} {after : Progress}
    (member : (global, after) ∈ globalTrail archives package progress) :
    after.settings = progress.settings := by
  have globals := settings_of_trail settings_of_enterGlobal member
  have templates : (templatesEntered archives package progress).settings =
      (importsEntered archives package progress).settings :=
    settings_of_forEach settings_of_enterTemplate _ _
  have imports : (importsEntered archives package progress).settings = progress.settings :=
    settings_of_forEach settings_of_importType _ _
  rw [globals, templates, imports]

end Stages

/-- A package that is entered has its imports, its templates and its globals entered. -/
theorem stages_of_enterPackage {package : Header.Package} {progress final : Progress}
    (done : enterPackage archives package progress = (.ok (), final)) :
    forEach (importType archives) package.imports progress =
        (.ok (), importsEntered archives package progress) ∧
      forEach (enterTemplate (packageScope progress.settings package) archives) package.templates
          (importsEntered archives package progress) =
        (.ok (), templatesEntered archives package progress) ∧
      forEach (enterGlobal (packageScope progress.settings package) archives) package.globals
          (templatesEntered archives package progress) = (.ok (), final) := by
  unfold enterPackage at done
  unfold templatesEntered importsEntered
  split at done
  · cases done
  · rename_i first imported
    simp only at done
    split at done
    · cases done
    · rename_i second templated
      have templates : forEach (enterTemplate (packageScope progress.settings package) archives)
          package.templates first = (.ok (), second) := templated
      simp only [imported, templates, true_and]
      exact done

/-- Items that are entered are those of imports, of templates and of globals. -/
theorem stages_of_entered {loader : Loader} {reading : Header.Reading} {final : Progress}
    (done : entered loader archives reading = (.ok (), final)) :
    forEach (importType archives) reading.package.imports (begun loader reading) =
        (.ok (), importsEntered archives reading.package (begun loader reading)) ∧
      forEach (enterTemplate (packageScope loader.settings reading.package) archives)
          reading.package.templates
          (importsEntered archives reading.package (begun loader reading)) =
        (.ok (), templatesEntered archives reading.package (begun loader reading)) ∧
      forEach (enterGlobal (packageScope loader.settings reading.package) archives)
          reading.package.globals
          (templatesEntered archives reading.package (begun loader reading)) = (.ok (), final) :=
  stages_of_enterPackage
    ((enterPackage_eq archives reading.package (begun loader reading)).trans done)

/-- **A build that ends well has entered its imports, its templates and its globals**, and then its
sentences. -/
theorem stages_of_build {loader : Loader} {header : String} {files : List Mapping.File}
    {outcome : Outcome} (built : (loader.build header archives files).1 = .ok outcome) :
    ∃ reading final, declared header = .ok reading ∧
      forEach (importType archives) reading.package.imports (begun loader reading) =
        (.ok (), importsEntered archives reading.package (begun loader reading)) ∧
      forEach (enterTemplate (packageScope loader.settings reading.package) archives)
          reading.package.templates
          (importsEntered archives reading.package (begun loader reading)) =
        (.ok (), templatesEntered archives reading.package (begun loader reading)) ∧
      forEach (enterGlobal (packageScope loader.settings reading.package) archives)
          reading.package.globals
          (templatesEntered archives reading.package (begun loader reading)) = (.ok (), final) ∧
      outcome = ⟨enterSentences files final.vocabulary, final.messages⟩ := by
  obtain ⟨reading, final, read, done, same⟩ := entered_of_build built
  obtain ⟨imports, templates, globals⟩ := stages_of_entered done
  exact ⟨reading, final, read, imports, templates, globals, same⟩

end RuleVocabulary.Loader
