import RuleVocabulary.Proofs.Loader.Repetition

/-!
# All archives or none

An expansion reads all archives before it registers anything. The first archive that cannot be
expanded decides how it ends, whatever comes behind that archive
(`Expander.exists_first_failing`). Where all can be expanded, their entries are registered in order.

Main statement: an expansion does nothing, or fails with the state left as it was, or registers all
entries and counts as one (`Loader.archives_register_all_or_nothing`).
-/

set_option autoImplicit false

namespace RuleVocabulary

theorem Archive.expand_eq_error_iff {archive : Archive} {fault : Fault} :
    archive.expand = .error fault ↔
      ∃ cause, Archive.entries archive.supply = .error cause ∧
        fault = .archiveRead (archive.label ++ ": " ++ cause.message) := by
  rw [expand]
  cases Archive.entries archive.supply with
  | error cause => simp [eq_comm]
  | ok entries => simp

namespace Expander

variable {archives : List Archive}

/-- The first archive that fails decides what the expansion fails with. -/
theorem exists_first_failing
    (fails : ∃ archive ∈ archives, ∃ fault, archive.expand = .error fault) :
    ∃ before failing after fault, archives = before ++ failing :: after ∧
      (∀ archive ∈ before, ∃ part, archive.expand = .ok part) ∧
      failing.expand = .error fault ∧ expandAll archives = .error fault := by
  induction archives with
  | nil =>
      obtain ⟨archive, member, -⟩ := fails
      cases member
  | cons archive archives ih =>
      cases read : archive.expand with
      | error fault =>
          refine ⟨[], archive, archives, fault, rfl, by simp, read, ?_⟩
          rw [expandAll, read]
      | ok part =>
          obtain ⟨failing, member, fault, refused⟩ := fails
          have behind : failing ∈ archives := by
            rcases List.mem_cons.mp member with rfl | behind
            · rw [read] at refused
              cases refused
            · exact behind
          obtain ⟨before, first, after, cause, rfl, good, failed, all⟩ :=
            ih ⟨failing, behind, fault, refused⟩
          refine ⟨archive :: before, first, after, cause, rfl, ?_, failed, ?_⟩
          · intro other member
            rcases List.mem_cons.mp member with rfl | behind
            · exact ⟨part, read⟩
            · exact good other behind
          · rw [expandAll, read, all]

/-- Where no archive fails, all of them have entries. -/
theorem exists_parts (expand : ∀ archive ∈ archives, ∃ part, archive.expand = .ok part) :
    ∃ parts, List.Forall₂ (fun archive part => archive.expand = .ok part) archives parts := by
  induction archives with
  | nil => exact ⟨[], .nil⟩
  | cons archive archives ih =>
      obtain ⟨part, read⟩ := expand archive (List.mem_cons_self ..)
      obtain ⟨parts, matched⟩ := ih fun other member => expand other (List.mem_cons_of_mem _ member)
      exact ⟨part :: parts, .cons read matched⟩

end Expander

namespace Loader

variable {archives : List Archive} {progress : Progress}

theorem expandArchives_of_spent
    (spent : progress.loader.expander.expanded = true ∨ archives = []) :
    expandArchives archives progress = (.ok false, progress) := by
  simp only [expandArchives, Expander.expandInto_of_spent spent]

theorem expandArchives_of_fresh (fresh : progress.loader.expander.expanded = false)
    (given : archives ≠ []) :
    expandArchives archives progress =
      match Expander.expandAll archives with
      | .error fault => (.error fault, progress)
      | .ok entries =>
        (.ok true, { progress with loader := progress.loader.withEntries entries }) := by
  simp only [expandArchives, Expander.expandInto_of_fresh fresh given]
  cases Expander.expandAll archives <;> rfl

/-- **Archives are registered all or not at all.** Nothing is done where archives were expanded
before or there are none. Otherwise the first archive that cannot be expanded makes the expansion
fail, and everything stays as it was. If there is no such archive, the expansion counts, and the
last entry with a path in all archives is what is registered there. -/
theorem archives_register_all_or_nothing (archives : List Archive) (progress : Progress) :
    let loader := progress.loader
    (loader.expander.expanded = true ∨ archives = [] →
      expandArchives archives progress = (.ok false, progress)) ∧
    (loader.expander.expanded = false →
      (∃ archive ∈ archives, ∃ fault, archive.expand = .error fault) →
      ∃ before failing after cause, archives = before ++ failing :: after ∧
        (∀ archive ∈ before, ∃ part, archive.expand = .ok part) ∧
        Archive.entries failing.supply = .error cause ∧
        expandArchives archives progress =
          (.error (.archiveRead (failing.label ++ ": " ++ cause.message)), progress)) ∧
    (loader.expander.expanded = false → archives ≠ [] →
      (∀ archive ∈ archives, ∃ part, archive.expand = .ok part) →
      ∃ parts registry,
        List.Forall₂ (fun archive part => archive.expand = .ok part) archives parts ∧
        expandArchives archives progress = (.ok true, { progress with
          loader := { loader with
            registry := registry
            expander := ⟨true, loader.expander.expansions + 1⟩ } }) ∧
        registry.ambient = loader.registry.ambient ∧
        registry.resourceSuffix = loader.registry.resourceSuffix ∧
        ∀ path, registry.resources[path]? =
          (Archive.lastBytes parts.flatten path).or loader.registry.resources[path]?) := by
  intro loader
  refine ⟨expandArchives_of_spent, ?_, ?_⟩
  · intro fresh fails
    obtain ⟨before, failing, after, fault, split, good, failed, all⟩ :=
      Expander.exists_first_failing fails
    obtain ⟨cause, broken, rfl⟩ := Archive.expand_eq_error_iff.mp failed
    have given : archives ≠ [] := by simp [split]
    refine ⟨before, failing, after, cause, split, good, broken, ?_⟩
    rw [expandArchives_of_fresh fresh given, all]
  · intro fresh given expand
    obtain ⟨parts, matched⟩ := Expander.exists_parts expand
    refine ⟨parts, loader.registry.register parts.flatten, matched, ?_, rfl, rfl,
      Registry.getElem?_register loader.registry parts.flatten⟩
    rw [expandArchives_of_fresh fresh given,
      Expander.expandAll_eq_ok_iff.mpr ⟨parts, matched, rfl⟩]
    rfl

/-- A torn archive keeps the one in front of it from being registered. On its own that one is
registered, and the resource that was there before stays. -/
theorem shadowing_is_registered_alone :
    let registry := (Registry.ofSettings .default).register [⟨"b", [2]⟩]
    let progress : Progress := ⟨⟨.default, registry, .fresh, .empty⟩, []⟩
    expandArchives [shadowing, ⟨"torn", [1]⟩] progress =
        (.error (.archiveRead "torn: failed to read entire block"), progress) ∧
      ∃ after, expandArchives [shadowing] progress = (.ok true, after) ∧
        after.loader.expander = ⟨true, 1⟩ ∧ after.registry.resources["b"]? = some [2] := by
  intro registry progress
  have torn : Archive.entries (Archive.supply ⟨"torn", [1]⟩) = .error .partialBlock := by
    decide +kernel
  have unlisted : shadowing.expand.map (Archive.lastBytes · "b") = .ok none := by
    decide +kernel
  obtain ⟨part, read⟩ : ∃ part, shadowing.expand = .ok part := by
    cases read : shadowing.expand with
    | error fault =>
        rw [read] at unlisted
        cases unlisted
    | ok part => exact ⟨part, rfl⟩
  constructor
  · obtain ⟨before, failing, after, cause, split, good, broken, failed⟩ :=
      (archives_register_all_or_nothing [shadowing, ⟨"torn", [1]⟩] progress).2.1 rfl
        ⟨⟨"torn", [1]⟩, by simp, _, Archive.expand_eq_error_iff.mpr ⟨_, torn, rfl⟩⟩
    rcases before with _ | ⟨first, _ | ⟨second, rest⟩⟩
    · obtain ⟨rfl, -⟩ : shadowing = failing ∧ _ := by simpa using split
      rw [Archive.expand_eq_error_iff.mpr ⟨cause, broken, rfl⟩] at read
      cases read
    · obtain ⟨-, rfl, -⟩ : shadowing = first ∧ ⟨"torn", [1]⟩ = failing ∧ _ := by simpa using split
      rw [torn] at broken
      cases broken
      exact failed
    · simp at split
  · obtain ⟨parts, registered, matched, done, -, -, paths⟩ :=
      (archives_register_all_or_nothing [shadowing] progress).2.2 rfl (by simp)
        fun archive member => List.mem_singleton.mp member ▸ ⟨part, read⟩
    obtain _ | @⟨_, part, _, _, same, _ | _⟩ := matched
    rw [same] at unlisted
    have absent : Archive.lastBytes [part].flatten "b" = none := by
      rw [List.flatten_singleton]
      exact Except.ok.inj unlisted
    have kept : registry.resources["b"]? = some [2] := by decide +kernel
    refine ⟨_, done, rfl, (paths "b").trans ?_⟩
    rw [absent, Option.none_or]
    exact kept

end Loader

end RuleVocabulary
