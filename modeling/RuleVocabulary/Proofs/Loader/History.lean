import RuleVocabulary.Proofs.Loader.Advance
import RuleVocabulary.Proofs.Registry.Ambient

/-!
# The history of a registry

In every run archives are expanded at most once between resets, and what is registered are the
entries of exactly that expansion. The builds since the last reset in which an expansion succeeded
are read off the run (`expandingCalls`). There is none of them, and then the registry has no
resources; or there is one, and then the resources are the entries of its archives, the last one
under each path. This is what each call preserves (`standing_call`), so it holds along every run
(`standing_after`).

Main statement: archives given to any other build contribute nothing
(`resources_of_single_expansion`).
-/

set_option autoImplicit false

namespace RuleVocabulary.Loader

/-! ## Expansions in a run -/

/-- Whether an expansion succeeds in a call. -/
def expands (loader : Loader) (call : Call) : Bool :=
  (loader.call call).2.expander.expansions != loader.expander.expansions

/-- The calls of a run in which an expansion succeeds, as far as no reset follows them. -/
def expandingCalls (loader : Loader) : List Call → List Call
  | [] => []
  | call :: calls =>
    let later := (loader.call call).2.expandingCalls calls
    if loader.expands call = true ∧ Call.reset ∉ calls then call :: later else later

theorem expands_reset (loader : Loader) : loader.expands .reset = false := by
  simp only [expands, call, reset, Expander.reset, bne_self_eq_false]

theorem expandingCalls_concat_reset (loader : Loader) (calls : List Call) :
    loader.expandingCalls (calls ++ [.reset]) = [] := by
  induction calls generalizing loader with
  | nil => simp [expandingCalls, expands_reset]
  | cons call calls ih => simp [expandingCalls, ih]

theorem expandingCalls_concat_build (loader : Loader) (calls : List Call) {call : Call}
    (build : call ≠ .reset) :
    loader.expandingCalls (calls ++ [call]) =
      loader.expandingCalls calls ++ if (loader.after calls).expands call then [call] else [] := by
  induction calls generalizing loader with
  | nil => cases expanding : loader.expands call <;> simp [expandingCalls, after, expanding]
  | cons first calls ih =>
      have kept : Call.reset ∈ calls ++ [call] ↔ Call.reset ∈ calls := by
        simp [Ne.symm build]
      rw [List.cons_append, expandingCalls, expandingCalls, ih, after_cons]
      simp only [kept]
      split
      · rw [List.cons_append]
      · rfl

/-! ## The registry apart from its resources -/

theorem clear_of_advance {archives : List Archive} {before after : Loader}
    (advance : Advance archives before after) :
    after.registry.clear = before.registry.clear := by
  cases advance with
  | kept same => rw [registry_of_cleared same]
  | expanded entries _ _ _ same =>
      rw [registry_of_cleared same]
      rfl

theorem clear_call (loader : Loader) (call : Call) :
    (loader.call call).2.registry.clear = loader.registry.clear := by
  cases call with
  | build header archives files => exact clear_of_advance (advance_build ..)
  | reset => rfl

/-- A run changes nothing in the registry but its resources. -/
theorem clear_after (loader : Loader) (calls : List Call) :
    (loader.after calls).registry.clear = loader.registry.clear := by
  induction calls generalizing loader with
  | nil => rfl
  | cons call calls ih => rw [after_cons, ih, clear_call]

theorem settings_after (loader : Loader) (calls : List Call) :
    (loader.after calls).settings = loader.settings := by
  induction calls generalizing loader with
  | nil => rfl
  | cons call calls ih =>
      rw [after_cons, ih]
      cases call with
      | build header archives files => exact (advance_build ..).settings
      | reset => rfl

/-! ## Standing -/

/-- How a loader stands after a run: no archives are expanded and nothing is registered, or what
is registered comes from one build since the last reset. -/
inductive Standing (start : Loader) (calls : List Call) (loader : Loader) : Prop where
  | fresh (unexpanded : loader.expander.expanded = false)
      (bound : loader.expander.expansions ≤ calls.count .reset)
      (none : start.expandingCalls calls = [])
      (bare : loader.registry.resources = ∅)
  | spent (expanded : loader.expander.expanded = true)
      (bound : loader.expander.expansions ≤ 1 + calls.count .reset)
      (header : String) (archives : List Archive) (files : List Mapping.File)
      (entries : List Archive.Entry)
      (one : start.expandingCalls calls = [.build header archives files])
      (given : archives ≠ [])
      (read : Expander.expandAll archives = .ok entries)
      (registered : ∀ path, loader.registry.resources[path]? = Archive.lastBytes entries path)

/-- What a call preserves. -/
theorem standing_call {start : Loader} {calls : List Call}
    (standing : Standing start calls (start.after calls)) (call : Call) :
    Standing start (calls ++ [call]) ((start.after calls).call call).2 := by
  cases call with
  | reset =>
      have bound : (start.after calls).expander.expansions ≤
          (calls ++ [Call.reset]).count .reset := by
        rw [List.count_append, List.count_singleton_self]
        cases standing with
        | fresh _ bound _ _ => omega
        | spent _ bound _ _ _ _ _ _ _ _ => omega
      exact .fresh rfl bound (expandingCalls_concat_reset start calls) rfl
  | build header archives files =>
      have build : Call.build header archives files ≠ .reset := by simp
      have resets : (calls ++ [Call.build header archives files]).count .reset =
          calls.count .reset := by
        rw [List.count_append, List.count_singleton, beq_eq_false_iff_ne.mpr build]
        rfl
      have expanding := expandingCalls_concat_build start calls build
      have advance : Advance archives (start.after calls)
          ((start.after calls).call (.build header archives files)).2 := advance_build ..
      cases advance with
      | kept same =>
          have idle : (start.after calls).expands (.build header archives files) = false := by
            rw [expands, expander_of_cleared same, bne_self_eq_false]
          rw [idle, if_neg Bool.false_ne_true, List.append_nil] at expanding
          cases standing with
          | fresh unexpanded bound none bare =>
              refine .fresh ?_ ?_ (expanding.trans none) ?_
              · rw [expander_of_cleared same, unexpanded]
              · rw [expander_of_cleared same, resets]
                exact bound
              · rw [registry_of_cleared same, bare]
          | spent expanded bound header archives files entries one given read registered =>
              refine .spent ?_ ?_ header archives files entries (expanding.trans one) given read ?_
              · rw [expander_of_cleared same, expanded]
              · rw [expander_of_cleared same, resets]
                exact bound
              · rw [registry_of_cleared same]
                exact registered
      | expanded entries fresh given read same =>
          have busy : (start.after calls).expands (.build header archives files) = true := by
            rw [expands, expander_of_cleared same]
            simp [withEntries]
          cases standing with
          | spent expanded _ _ _ _ _ _ _ _ _ =>
              rw [expanded] at fresh
              cases fresh
          | fresh unexpanded bound none bare =>
              rw [busy, if_pos rfl, none, List.nil_append] at expanding
              refine .spent ?_ ?_ header archives files entries expanding given read ?_
              · rw [expander_of_cleared same]
                rfl
              · rw [expander_of_cleared same, resets]
                show (start.after calls).expander.expansions + 1 ≤ _
                omega
              · intro path
                rw [registry_of_cleared same]
                show ((start.after calls).registry.register entries).resources[path]? = _
                rw [Registry.getElem?_register, bare]
                simp

/-- What holds along every run of a loader that begins with nothing expanded. -/
theorem standing_after {start : Loader} (unspent : start.expander = .fresh)
    (bare : start.registry.resources = ∅) (calls : List Call) :
    Standing start calls (start.after calls) := by
  induction calls using List.reverseRecOn with
  | nil =>
      refine .fresh ?_ ?_ rfl bare
      · rw [after, List.foldl_nil, unspent]
        rfl
      · rw [after, List.foldl_nil, unspent]
        exact Nat.zero_le _
  | append_singleton calls call ih =>
      rw [after_concat]
      exact standing_call ih call

/-- A loader that has expanded nothing since its last reset knows what it knew at the start. -/
theorem registry_of_unexpanded {start : Loader} (unspent : start.expander = .fresh)
    (bare : start.registry.resources = ∅) {calls : List Call}
    (unexpanded : (start.after calls).expander.expanded = false) :
    (start.after calls).registry = start.registry := by
  cases standing_after unspent bare calls with
  | fresh _ _ _ none =>
      rw [← Registry.clear_of_bare none, clear_after, Registry.clear_of_bare bare]
  | spent expanded _ _ _ _ _ _ _ _ _ =>
      rw [unexpanded] at expanded
      cases expanded

/-- **What is registered comes from a single build.** In every run from a new loader, expansions
exceed resets by one at most. If no expansion has succeeded since the last reset, nothing is
registered. Otherwise it was in one build, and the bytes under each path are those of the last
entry with that path in the archives of this build. -/
theorem resources_of_single_expansion (settings : Settings) (calls : List Call) :
    let start := ofSettings settings
    let loader := start.after calls
    loader.expander.expansions ≤ 1 + calls.count .reset ∧
      ((start.expandingCalls calls = [] ∧ loader.registry.resources = ∅) ∨
        ∃ header archives files parts,
          start.expandingCalls calls = [.build header archives files] ∧ archives ≠ [] ∧
            List.Forall₂ (fun archive part => archive.expand = .ok part) archives parts ∧
            ∀ path, loader.registry.resources[path]? =
              Archive.lastBytes parts.flatten path) := by
  intro start loader
  have standing : Standing start calls loader :=
    standing_after rfl (Registry.resources_ofSettings settings) calls
  cases standing with
  | fresh _ bound none bare => exact ⟨by omega, .inl ⟨none, bare⟩⟩
  | spent _ bound header archives files entries one given read registered =>
      obtain ⟨parts, matched, rfl⟩ := Expander.expandAll_eq_ok_iff.mp read
      exact ⟨bound, .inr ⟨header, archives, files, parts, one, given, matched, registered⟩⟩

end RuleVocabulary.Loader
