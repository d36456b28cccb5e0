import RuleVocabulary.Loader
import RuleVocabulary.Proofs.Registry.Lookup

/-!
# Searches and the archives behind them

A search reads the registry, and reaches for the archives only where it finds nothing
(`Loader.searched`). Archives are out of reach once they are expanded, and where there are none
(`Loader.expanded_of_spent`); else all of them are expanded, or the first that cannot be read ends
the build with a fatal fault (`Loader.expanded_of_fresh`, `Loader.isFatal_of_searched`).

A search answers what the registry it leaves answers (`Loader.search_eq`).
-/

set_option autoImplicit false

namespace RuleVocabulary

namespace Expander

/-- Nothing is expanded a second time, and no archives are expanded into nothing. -/
theorem expandInto_of_spent {expander : Expander} {archives : List Archive}
    (spent : expander.expanded = true ∨ archives = []) (registry : Registry) :
    expander.expandInto archives registry = .ok ⟨false, expander, registry⟩ := by
  have unreached : (expander.expanded || archives.isEmpty) = true := by
    rcases spent with before | rfl
    · simp only [before, Bool.true_or]
    · simp only [List.isEmpty_nil, Bool.or_true]
  rw [expandInto, if_pos unreached]

/-- Archives that are within reach are expanded, all of them or none. -/
theorem expandInto_of_fresh {expander : Expander} {archives : List Archive}
    (fresh : expander.expanded = false) (given : archives ≠ []) (registry : Registry) :
    expander.expandInto archives registry =
      match expandAll archives with
      | .error fault => .error fault
      | .ok entries => .ok ⟨true, ⟨true, expander.expansions + 1⟩, registry.register entries⟩ := by
  have reached : ¬ (expander.expanded || archives.isEmpty) = true := by
    simp only [fresh, Bool.false_or, List.isEmpty_iff]
    exact given
  unfold expandInto
  exact if_neg reached

/-- Archives that cannot be expanded are a fatal fault. -/
theorem isFatal_of_expandAll {archives : List Archive} {fault : Fault}
    (failed : expandAll archives = .error fault) : fault.isFatal = true := by
  induction archives with
  | nil => cases failed
  | cons archive archives ih =>
      rw [expandAll] at failed
      split at failed
      · rename_i refused
        cases failed
        unfold Archive.expand at refused
        split at refused
        · cases refused
        · cases refused
          rfl
      · split at failed
        · rename_i refused
          cases failed
          exact ih refused
        · cases failed

/-- The archives are expanded one by one, and their entries strung together. -/
theorem expandAll_eq_ok_iff {archives : List Archive} {entries : List Archive.Entry} :
    expandAll archives = .ok entries ↔
      ∃ parts, List.Forall₂ (fun archive part => archive.expand = .ok part) archives parts ∧
        entries = parts.flatten := by
  induction archives generalizing entries with
  | nil =>
      constructor
      · intro done
        cases done
        exact ⟨[], .nil, rfl⟩
      · rintro ⟨parts, matched, rfl⟩
        cases matched
        rfl
  | cons archive archives ih =>
      rw [expandAll]
      constructor
      · intro done
        split at done
        · cases done
        · rename_i part read
          split at done
          · cases done
          · rename_i more rest
            cases done
            obtain ⟨parts, matched, rfl⟩ := ih.mp rest
            exact ⟨part :: parts, .cons read matched, rfl⟩
      · rintro ⟨parts, matched, rfl⟩
        cases matched with
        | cons read matched =>
            rw [read, ih.mpr ⟨_, matched, rfl⟩]
            rfl

end Expander

namespace Loader

/-- The loader with entries registered by an expansion. -/
def withEntries (loader : Loader) (entries : List Archive.Entry) : Loader :=
  { loader with
    registry := loader.registry.register entries
    expander := ⟨true, loader.expander.expansions + 1⟩ }

/-- The loader once its archives are expanded, unless that happened before. -/
def expanded (loader : Loader) (archives : List Archive) : Except Fault Loader :=
  match loader.expander.expandInto archives loader.registry with
  | .error fault => .error fault
  | .ok result => .ok { loader with registry := result.registry, expander := result.expander }

/-- The loader that a search leaves. -/
def searched (loader : Loader) (archives : List Archive)
    (find : Registry → Except Fault (Option Descriptor)) : Except Fault Loader :=
  match find loader.registry with
  | .ok none => loader.expanded archives
  | _ => .ok loader

variable {loader : Loader} {archives : List Archive}
  {find : Registry → Except Fault (Option Descriptor)}

theorem expanded_of_spent (spent : loader.expander.expanded = true ∨ archives = []) :
    loader.expanded archives = .ok loader := by
  unfold expanded
  rw [Expander.expandInto_of_spent spent]

theorem expanded_of_fresh (fresh : loader.expander.expanded = false) (given : archives ≠ []) :
    loader.expanded archives = (Expander.expandAll archives).map loader.withEntries := by
  unfold expanded
  rw [Expander.expandInto_of_fresh fresh given]
  cases Expander.expandAll archives <;> rfl

theorem searched_of_hit (hit : find loader.registry ≠ .ok none) :
    loader.searched archives find = .ok loader := by
  unfold searched
  split
  · rename_i miss
    exact absurd miss hit
  · rfl

theorem searched_of_miss (miss : find loader.registry = .ok none) :
    loader.searched archives find = loader.expanded archives := by
  unfold searched
  rw [miss]

/-- An expansion fails fatally. -/
theorem isFatal_of_searched {fault : Fault}
    (failed : loader.searched archives find = .error fault) :
    fault.isFatal = true ∧ Expander.expandAll archives = .error fault := by
  by_cases miss : find loader.registry = .ok none
  · rw [searched_of_miss miss] at failed
    by_cases spent : loader.expander.expanded = true ∨ archives = []
    · rw [expanded_of_spent spent] at failed
      cases failed
    · rw [not_or, Bool.not_eq_true] at spent
      rw [expanded_of_fresh spent.1 spent.2] at failed
      cases read : Expander.expandAll archives with
      | error cause =>
          rw [read] at failed
          cases failed
          exact ⟨Expander.isFatal_of_expandAll read, rfl⟩
      | ok entries =>
          rw [read] at failed
          cases failed
  · rw [searched_of_hit miss] at failed
    cases failed

/-- An expansion that ends well leaves the loader as it was, if its archives are out of reach, or
else with their entries. -/
theorem expanded_cases {after : Loader} (done : loader.expanded archives = .ok after) :
    (after = loader ∧ (loader.expander.expanded = true ∨ archives = [])) ∨
      loader.expander.expanded = false ∧ archives ≠ [] ∧
        ∃ entries, Expander.expandAll archives = .ok entries ∧
          after = loader.withEntries entries := by
  by_cases spent : loader.expander.expanded = true ∨ archives = []
  · rw [expanded_of_spent spent] at done
    cases done
    exact .inl ⟨rfl, spent⟩
  · rw [not_or, Bool.not_eq_true] at spent
    rw [expanded_of_fresh spent.1 spent.2] at done
    cases read : Expander.expandAll archives with
    | error cause =>
        rw [read] at done
        cases done
    | ok entries =>
        rw [read] at done
        cases done
        exact .inr ⟨spent.1, spent.2, entries, rfl, rfl⟩

/-- A search that ends well leaves the loader as it was, or with the entries of the archives. -/
theorem searched_cases {after : Loader} (done : loader.searched archives find = .ok after) :
    after = loader ∨
      loader.expander.expanded = false ∧ archives ≠ [] ∧
        ∃ entries, Expander.expandAll archives = .ok entries ∧
          after = loader.withEntries entries := by
  by_cases miss : find loader.registry = .ok none
  · rw [searched_of_miss miss] at done
    exact (expanded_cases done).imp_left And.left
  · rw [searched_of_hit miss] at done
    cases done
    exact .inl rfl

theorem draft_of_searched {after : Loader} (done : loader.searched archives find = .ok after) :
    after.draft = loader.draft := by
  rcases searched_cases done with rfl | ⟨-, -, entries, -, rfl⟩
  · rfl
  · rfl

/-- **A search answers what the registry it leaves answers.** -/
theorem search_eq (archives : List Archive) (find : Registry → Except Fault (Option Descriptor))
    (progress : Progress) :
    search archives find progress =
      match progress.loader.searched archives find with
      | .error fault => (.error fault, progress)
      | .ok loader => (find loader.registry, { progress with loader := loader }) := by
  cases known : find progress.loader.registry with
  | error fault => simp only [search, searched, Progress.registry, known]
  | ok found =>
      cases found with
      | some type => simp only [search, searched, Progress.registry, known]
      | none =>
          rw [searched_of_miss known]
          simp only [search, Progress.registry, known, expandArchives, expanded]
          by_cases spent : progress.loader.expander.expanded = true ∨ archives = []
          · simp only [Expander.expandInto_of_spent spent, known]
          · rw [not_or, Bool.not_eq_true] at spent
            rw [Expander.expandInto_of_fresh spent.1 spent.2]
            cases Expander.expandAll archives <;> rfl

end Loader

end RuleVocabulary
