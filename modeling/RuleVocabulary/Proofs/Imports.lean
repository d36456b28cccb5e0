import Mathlib.Data.List.Induction
import RuleVocabulary.Imports

/-!
# What a sequence of imports gives

A name is qualified by the last import of a single type with that short name
(`qualified?_ofTargets`). So what is imported depends on the order of packages, and for each short
name on the order of the imports with that name, and on nothing else: imports that are reordered in
between give the same names (`ofTargets_of_reordered`).

The same holds of whatever a fold makes. What can be seen through a view is decided by the elements
that touch it (`foldl_filter`).
-/

set_option autoImplicit false

namespace RuleVocabulary

/-- What can be seen of a fold through a view is decided by the elements that touch the view. -/
theorem foldl_filter {σ α β : Type} {step : σ → α → σ} {view : σ → β} {touches : α → Bool}
    (respects : ∀ first second element, view first = view second →
      view (step first element) = view (step second element))
    (untouched : ∀ state element, touches element = false → view (step state element) = view state)
    (elements : List α) {first second : σ} (same : view first = view second) :
    view (elements.foldl step first) = view ((elements.filter touches).foldl step second) := by
  induction elements generalizing first second with
  | nil => exact same
  | cons element elements ih =>
      cases touched : touches element with
      | true =>
          rw [List.filter_cons_of_pos touched]
          exact ih (respects first second element same)
      | false =>
          rw [List.filter_cons_of_neg (by simp [touched])]
          exact ih ((untouched first element touched).trans same)

/-- Folds over sequences with the same touching elements look the same through the view. -/
theorem foldl_congr_filter {σ α β : Type} {step : σ → α → σ} {view : σ → β} {touches : α → Bool}
    (respects : ∀ first second element, view first = view second →
      view (step first element) = view (step second element))
    (untouched : ∀ state element, touches element = false → view (step state element) = view state)
    {elements others : List α} (agree : others.filter touches = elements.filter touches)
    (state : σ) : view (others.foldl step state) = view (elements.foldl step state) := by
  rw [foldl_filter respects untouched others rfl, agree]
  exact (foldl_filter respects untouched elements rfl).symm

/-- Where a touching element sets what is seen through the view, folds over sequences with the same
touching elements look the same through it. -/
theorem foldl_congr_filter_of_sets {σ α β : Type} {step : σ → α → σ} {view : σ → β}
    {touches : α → Bool} {made : α → β}
    (sets : ∀ state element, view (step state element) =
      if touches element = true then made element else view state)
    {elements others : List α} (agree : others.filter touches = elements.filter touches)
    (state : σ) : view (others.foldl step state) = view (elements.foldl step state) := by
  refine foldl_congr_filter ?_ ?_ agree state
  · intro first second element same
    rw [sets, sets, same]
  · intro state element untouched
    rw [sets, untouched, if_neg Bool.false_ne_true]

/-- A name that is put behind others counts unless it is among them. -/
theorem eraseDups_concat (names : List String) (name : String) :
    (names ++ [name]).eraseDups =
      if name ∈ names then names.eraseDups else names.eraseDups ++ [name] := by
  rw [List.eraseDups_append]
  by_cases known : name ∈ names <;> simp [List.removeAll, known, List.eraseDups_cons]

theorem nodup_eraseDups (names : List String) : names.eraseDups.Nodup := by
  induction names using List.reverseRecOn with
  | nil => exact List.nodup_nil
  | append_singleton names name ih =>
      rw [eraseDups_concat]
      split
      · exact ih
      · rename_i new
        rw [List.nodup_append]
        refine ⟨ih, by simp, ?_⟩
        rintro other member _ here rfl
        obtain rfl := List.mem_singleton.mp here
        exact new (List.mem_eraseDups.mp member)

namespace Imports

/-- Whether an import is that of a single type with the given short name. -/
def names (name target : String) : Bool :=
  !Name.isWildcard target && decide (Name.short target = name)

/-- The last import of a single type with the given short name. -/
def lastNamed? (targets : List String) (name : String) : Option String :=
  targets.reverse.find? (names name)

theorem names_eq_false_of_isWildcard {target : String} (whole : Name.isWildcard target = true)
    (name : String) : names name target = false := by
  simp [names, whole]

/-! ## One import more -/

theorem qualified?_add (imports : Imports) (target name : String) :
    (imports.add target).qualified? name =
      if names name target = true then some target else imports.qualified? name := by
  cases package : Name.wildcardPackage? target with
  | some whole =>
      have unnamed : names name target = false :=
        names_eq_false_of_isWildcard (by rw [Name.isWildcard, package, Option.isSome_some]) name
      rw [unnamed, if_neg Bool.false_ne_true]
      simp only [add, package]
      split <;> rfl
  | none =>
      have single : Name.isWildcard target = false := by rw [Name.isWildcard, package]; rfl
      simp [add, package, qualified?, names, single, Std.ExtTreeMap.getElem?_insert]

theorem packages_add_of_single (imports : Imports) {target : String}
    (single : Name.isWildcard target = false) :
    (imports.add target).packages = imports.packages := by
  have package : Name.wildcardPackage? target = .none := by
    rwa [Name.isWildcard, Option.isSome_eq_false_iff, Option.isNone_iff_eq_none] at single
  simp only [add, package]

theorem packages_add_congr {first second : Imports} (same : first.packages = second.packages)
    (target : String) : (first.add target).packages = (second.add target).packages := by
  cases package : Name.wildcardPackage? target with
  | some whole =>
      simp only [add, package, same]
      split
      · exact same
      · rfl
  | none =>
      simp only [add, package]
      exact same

/-! ## Sequences of imports -/

/-- **The last import of a short name qualifies it.** -/
theorem qualified?_ofTargets (targets : List String) (name : String) :
    (ofTargets targets).qualified? name = lastNamed? targets name := by
  induction targets using List.reverseRecOn with
  | nil => simp [ofTargets, none, qualified?, lastNamed?]
  | append_singleton targets target ih =>
      have more : ofTargets (targets ++ [target]) = (ofTargets targets).add target :=
        List.foldl_append ..
      have last : lastNamed? (targets ++ [target]) name =
          if names name target = true then some target else lastNamed? targets name := by
        rw [lastNamed?, List.reverse_concat, List.find?_cons]
        split
        · rename_i named
          rw [if_pos named]
        · rename_i other
          rw [if_neg (by simp [other])]
          rfl
      rw [more, qualified?_add, last, ih]

/-- Whether a sequence of imports is another one in an order that shadows nothing else: the packages
stand in their order, and so do the imports of each short name. -/
structure Reordered (first second : List String) : Prop where
  perm : second.Perm first
  packages : second.filter Name.isWildcard = first.filter Name.isWildcard
  named : ∀ name, second.filter (names name) = first.filter (names name)

/-- **Reordered imports give the same names.** -/
theorem ofTargets_of_reordered {first second : List String} (reordered : Reordered first second) :
    ofTargets second = ofTargets first := by
  have packages : (ofTargets second).packages = (ofTargets first).packages :=
    @foldl_congr_filter _ _ _ add packages _ (fun _ _ target same => packages_add_congr same target)
      (fun imports _ single => packages_add_of_single imports single) _ _ reordered.packages none
  have explicit : (ofTargets second).explicit = (ofTargets first).explicit := by
    refine Std.ExtTreeMap.ext_getElem? fun name => ?_
    exact @foldl_congr_filter_of_sets _ _ _ add (qualified? · name) _ some
      (fun imports target => qualified?_add imports target name) _ _ (reordered.named name) none
  calc
    ofTargets second = ⟨(ofTargets second).explicit, (ofTargets second).packages⟩ := rfl
    _ = ofTargets first := by rw [explicit, packages]

end Imports

end RuleVocabulary
