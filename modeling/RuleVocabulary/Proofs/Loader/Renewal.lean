import RuleVocabulary.Proofs.Loader.History

/-!
# Loaders that have been reset

A reset gives a loader back the registry that it began with, and allows archives to be expanded
again. It keeps the number of expansions made so far. No build reads that number: a loader that has
more expansions behind it answers the same calls in the same way, and is left with as many more
(`build_aged`, `answers_aged`, `after_aged`). The draft that a reset keeps does not matter either
(`answers_of_cleared`).

Main statement: after any run that ends in a reset, a loader is as good as a new one
(`reset_loader_is_as_new`).
-/

set_option autoImplicit false

namespace RuleVocabulary

/-- The expander with more expansions behind it. -/
def Expander.aged (expander : Expander) (count : Nat) : Expander :=
  { expander with expansions := expander.expansions + count }

namespace Loader

/-- The loader with more expansions behind it. -/
def aged (loader : Loader) (count : Nat) : Loader :=
  { loader with expander := loader.expander.aged count }

/-- The build with more expansions behind its loader. -/
def Progress.aged (progress : Progress) (count : Nat) : Progress :=
  { progress with loader := progress.loader.aged count }

/-! ## The number of expansions does not matter -/

section Aged

variable {scope : Scope} {archives : List Archive} (count : Nat)

theorem withEntries_aged (loader : Loader) (entries : List Archive.Entry) :
    (loader.aged count).withEntries entries = (loader.withEntries entries).aged count := by
  have later : loader.expander.expansions + count + 1 = loader.expander.expansions + 1 + count :=
    Nat.add_right_comm ..
  simp only [withEntries, aged, Expander.aged, later]

theorem expanded_aged (loader : Loader) (archives : List Archive) :
    (loader.aged count).expanded archives = (loader.expanded archives).map (·.aged count) := by
  by_cases spent : loader.expander.expanded = true ∨ archives = []
  · rw [expanded_of_spent spent]
    exact @expanded_of_spent (loader.aged count) archives spent
  · rw [not_or, Bool.not_eq_true] at spent
    rw [expanded_of_fresh spent.1 spent.2,
      @expanded_of_fresh (loader.aged count) archives spent.1 spent.2]
    cases Expander.expandAll archives with
    | error fault => rfl
    | ok entries => exact congrArg Except.ok (withEntries_aged count loader entries)

theorem searchedFor_aged (loader : Loader) (item : Item) :
    searchedFor scope archives (loader.aged count) item =
      (searchedFor scope archives loader item).map (·.aged count) := by
  have draft : (loader.aged count).draft = loader.draft := rfl
  unfold searchedFor
  rw [draft]
  split
  · rfl
  · rename_i find sought
    by_cases miss : find loader.registry = .ok none
    · rw [searched_of_miss miss, @searched_of_miss (loader.aged count) archives find miss,
        expanded_aged]
    · rw [searched_of_hit miss, @searched_of_hit (loader.aged count) archives find miss]
      rfl

theorem contribution_aged (loader : Loader) (item : Item) :
    item.contribution scope (loader.aged count) = item.contribution scope loader := by
  cases item <;> rfl

theorem enterItem_aged (item : Item) (progress : Progress) :
    enterItem scope archives item (progress.aged count) =
      ((enterItem scope archives item progress).1,
        (enterItem scope archives item progress).2.aged count) := by
  have searched : searchedFor scope archives (progress.aged count).loader item =
      (searchedFor scope archives progress.loader item).map (·.aged count) :=
    searchedFor_aged count progress.loader item
  unfold enterItem
  rw [searched]
  cases searchedFor scope archives progress.loader item with
  | error fault => rfl
  | ok loader =>
      simp only [Except.map, contribution_aged]
      rfl

theorem forEach_aged {α : Type} {step : α → Step Unit}
    (steps : ∀ element progress, step element (progress.aged count) =
      ((step element progress).1, (step element progress).2.aged count))
    (elements : List α) (progress : Progress) :
    forEach step elements (progress.aged count) =
      ((forEach step elements progress).1, (forEach step elements progress).2.aged count) := by
  induction elements generalizing progress with
  | nil => rfl
  | cons element elements ih =>
      rw [forEach_cons, forEach_cons, steps]
      rcases step element progress with ⟨fault | done, after⟩
      · rfl
      · exact ih after

/-- **A build does not depend on the number of expansions made before.** -/
theorem build_aged (loader : Loader) (header : String) (archives : List Archive)
    (files : List Mapping.File) :
    (loader.aged count).build header archives files =
      ((loader.build header archives files).1,
        (loader.build header archives files).2.aged count) := by
  rw [build_eq, build_eq]
  cases declared header with
  | error fault => rfl
  | ok reading =>
      have entering : entered (loader.aged count) archives reading =
          ((entered loader archives reading).1, (entered loader archives reading).2.aged count) :=
        forEach_aged count (enterItem_aged count) (Item.ofPackage reading.package)
          (begun loader reading)
      simp only [entering]
      rcases entered loader archives reading with ⟨fault | done, after⟩
      · rfl
      · rfl

theorem call_aged (loader : Loader) (call : Call) :
    (loader.aged count).call call = ((loader.call call).1, (loader.call call).2.aged count) := by
  cases call with
  | build header archives files => simp only [Loader.call, build_aged]
  | reset => rfl

/-- **What a run answers does not depend on the number of expansions made before.** -/
theorem answers_aged (loader : Loader) (calls : List Call) :
    (loader.aged count).answers calls = loader.answers calls := by
  induction calls generalizing loader with
  | nil => rfl
  | cons call calls ih => rw [answers, answers, call_aged, ih]

theorem after_aged (loader : Loader) (calls : List Call) :
    (loader.aged count).after calls = (loader.after calls).aged count := by
  induction calls generalizing loader with
  | nil => rfl
  | cons call calls ih => rw [after_cons, after_cons, call_aged, ih]

end Aged

/-! ## Resets -/

/-- A run that ends in a reset leaves what the loader began with, the draft and the number of
expansions apart. -/
theorem cleared_after_reset {new : Loader} (unspent : new.expander = .fresh)
    (bare : new.registry.resources = ∅) (calls : List Call) :
    (new.after (calls ++ [.reset])).cleared =
      (new.aged (new.after calls).expander.expansions).cleared := by
  have settings : (new.after calls).settings = new.settings := settings_after new calls
  have registry : (new.after calls).registry.clear = new.registry := by
    rw [clear_after, Registry.clear_of_bare bare]
  have expander : (new.after calls).expander.reset =
      new.expander.aged (new.after calls).expander.expansions := by
    rw [unspent]
    simp only [Expander.reset, Expander.aged, Expander.fresh, Nat.zero_add]
  rw [after_concat]
  simp only [call, reset, cleared, aged, settings, registry, expander]

theorem expander_foldl_define (loader : Loader) (types : List Descriptor) :
    (types.foldl define loader).expander = loader.expander := by
  induction types generalizing loader with
  | nil => rfl
  | cons type types ih => exact ih (loader.define type)

theorem registry_foldl_define (loader : Loader) (types : List Descriptor) :
    (types.foldl define loader).registry = types.foldl Registry.define loader.registry := by
  induction types generalizing loader with
  | nil => rfl
  | cons type types ih => exact ih (loader.define type)

/-- **A reset loader is as good as new.** Take a loader with any settings and any types made known
to it from the start, and let it make any run that ends in a reset. Whatever it is called to do
then, it answers call by call what a new one answers, and it is left with the same registry. Its
expander differs by the number of expansions made before the reset. -/
theorem reset_loader_is_as_new (settings : Settings) (types : List Descriptor)
    (calls further : List Call) :
    let new := types.foldl define (ofSettings settings)
    let renewed := new.after (calls ++ [.reset])
    renewed.answers further = new.answers further ∧
      (renewed.after further).registry = (new.after further).registry ∧
      (renewed.after further).expander =
        (new.after further).expander.aged (new.after calls).expander.expansions := by
  intro new renewed
  have unspent : new.expander = .fresh := expander_foldl_define (ofSettings settings) types
  have bare : new.registry.resources = ∅ := by
    rw [registry_foldl_define, Registry.resources_foldl_define]
    exact Registry.resources_ofSettings settings
  have same : renewed.cleared = (new.aged (new.after calls).expander.expansions).cleared :=
    cleared_after_reset unspent bare calls
  have left := after_of_cleared same further
  rw [after_aged] at left
  have registry := registry_of_cleared left
  have expander := expander_of_cleared left
  refine ⟨?_, registry, expander⟩
  rw [answers_of_cleared same, answers_aged]

end Loader

end RuleVocabulary
