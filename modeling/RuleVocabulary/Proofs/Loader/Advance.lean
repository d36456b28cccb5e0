import RuleVocabulary.Proofs.Loader.Item
import RuleVocabulary.Proofs.Loader.Run

/-!
# What a build makes of its loader

Its draft apart, a build leaves a loader as it was, or with the entries of all its archives
registered (`Advance`, `advance_build`). It fails only where its header cannot be read, or where
archives that it reaches for cannot (`fault_of_build`); in both cases nothing has been registered
(`cleared_of_failed`).

Main statement: a failed build leaves no trace (`failed_build_leaves_no_trace`).
-/

set_option autoImplicit false

namespace RuleVocabulary

/-- The fatal faults are headers and archives that cannot be read. -/
theorem Fault.isFatal_iff {fault : Fault} :
    fault.isFatal = true ↔
      (∃ detail line column, fault = .parse detail line column) ∨
        ∃ detail, fault = .archiveRead detail := by
  cases fault <;> simp [Fault.isFatal]

namespace Loader

/-- What a build may make of a loader, its draft apart: nothing, or the entries of archives that
were not expanded before are registered. -/
inductive Advance (archives : List Archive) (before after : Loader) : Prop where
  | kept (same : after.cleared = before.cleared)
  | expanded (entries : List Archive.Entry) (fresh : before.expander.expanded = false)
      (given : archives ≠ []) (read : Expander.expandAll archives = .ok entries)
      (same : after.cleared = (before.withEntries entries).cleared)

namespace Advance

variable {archives : List Archive} {first second third : Loader}

theorem refl (archives : List Archive) (loader : Loader) : Advance archives loader loader :=
  .kept rfl

/-- Once archives are expanded, nothing more comes of a loader. -/
theorem trans (earlier : Advance archives first second) (later : Advance archives second third) :
    Advance archives first third := by
  cases earlier with
  | kept same =>
      cases later with
      | kept further => exact .kept (further.trans same)
      | expanded entries fresh given read further =>
          have registered : (second.withEntries entries).cleared =
              (first.withEntries entries).cleared :=
            congrArg (·.withEntries entries) same
          rw [expander_of_cleared same] at fresh
          exact .expanded entries fresh given read (further.trans registered)
  | expanded entries fresh given read same =>
      cases later with
      | kept further => exact .expanded entries fresh given read (further.trans same)
      | expanded _ unspent _ _ _ =>
          rw [expander_of_cleared same] at unspent
          cases unspent

/-- Archives that cannot be read leave the loader as it was. -/
theorem cleared_of_refused {fault : Fault} (advance : Advance archives first second)
    (refused : Expander.expandAll archives = .error fault) : second.cleared = first.cleared := by
  cases advance with
  | kept same => exact same
  | expanded entries _ _ read _ =>
      rw [refused] at read
      cases read

theorem settings (advance : Advance archives first second) :
    second.settings = first.settings := by
  cases advance with
  | kept same => exact settings_of_cleared same
  | expanded entries _ _ _ same =>
      have kept : second.settings = (first.withEntries entries).settings :=
        settings_of_cleared same
      exact kept

end Advance

/-! ## Items, one and all -/

variable {scope : Scope} {archives : List Archive}

theorem searchedFor_cases {loader after : Loader} {item : Item}
    (done : searchedFor scope archives loader item = .ok after) :
    after = loader ∨
      loader.expander.expanded = false ∧ archives ≠ [] ∧
        ∃ entries, Expander.expandAll archives = .ok entries ∧
          after = loader.withEntries entries := by
  unfold searchedFor at done
  split at done
  · cases done
    exact .inl rfl
  · exact searched_cases done

theorem advance_enterItem (item : Item) (progress : Progress) :
    Advance archives progress.loader (enterItem scope archives item progress).2.loader := by
  unfold enterItem
  split
  · exact .refl archives progress.loader
  · rename_i loader done
    rcases searchedFor_cases done with rfl | ⟨fresh, given, entries, read, rfl⟩
    · exact .kept rfl
    · exact .expanded entries fresh given read rfl

/-- An item fails only by archives that cannot be read. -/
theorem fault_of_enterItem {item : Item} {progress : Progress} {fault : Fault}
    (failed : (enterItem scope archives item progress).1 = .error fault) :
    fault.isFatal = true ∧ Expander.expandAll archives = .error fault := by
  unfold enterItem at failed
  split at failed
  · rename_i cause searched
    cases failed
    unfold searchedFor at searched
    split at searched
    · cases searched
    · exact isFatal_of_searched searched
  · cases failed

/-- What holds between the states around each step holds between the states around all. -/
theorem relates_of_forEach {α : Type} {motive : Progress → Progress → Prop}
    {step : α → Step Unit} (refl : ∀ progress, motive progress progress)
    (trans : ∀ first second third, motive first second → motive second third →
      motive first third)
    (steps : ∀ element progress, motive progress (step element progress).2)
    (elements : List α) (progress : Progress) :
    motive progress (forEach step elements progress).2 := by
  induction elements generalizing progress with
  | nil => exact refl progress
  | cons element elements ih =>
      have first := steps element progress
      rw [forEach_cons]
      split
      · rename_i after stepped
        rw [stepped] at first
        exact first
      · rename_i after stepped
        rw [stepped] at first
        exact trans _ _ _ first (ih after)

/-- Steps that fail only in one way fail only in that way altogether. -/
theorem fault_of_forEach {α : Type} {motive : Fault → Prop} {step : α → Step Unit}
    (steps : ∀ element progress fault, (step element progress).1 = .error fault → motive fault)
    {elements : List α} {progress : Progress} {fault : Fault}
    (failed : (forEach step elements progress).1 = .error fault) : motive fault := by
  induction elements generalizing progress with
  | nil => cases failed
  | cons element elements ih =>
      rw [forEach_cons] at failed
      split at failed
      · rename_i stepped
        cases failed
        exact steps element progress _ (congrArg Prod.fst stepped)
      · exact ih failed

theorem advance_entered (loader : Loader) (reading : Header.Reading) :
    Advance archives loader (entered loader archives reading).2.loader := by
  have begins : Advance archives loader (begun loader reading).loader := .kept rfl
  refine begins.trans (relates_of_forEach (motive := fun before after =>
    Advance archives before.loader after.loader) ?_ ?_ ?_ _ _)
  · exact fun progress => .refl archives progress.loader
  · exact fun _ _ _ earlier later => earlier.trans later
  · exact advance_enterItem

theorem fault_of_entered {loader : Loader} {reading : Header.Reading} {fault : Fault}
    (failed : (entered loader archives reading).1 = .error fault) :
    fault.isFatal = true ∧ Expander.expandAll archives = .error fault :=
  fault_of_forEach (motive := fun fault =>
    fault.isFatal = true ∧ Expander.expandAll archives = .error fault)
    (fun _ _ _ => fault_of_enterItem) failed

/-! ## Builds -/

theorem isFatal_of_declared {header : String} {fault : Fault}
    (failed : declared header = .error fault) : fault.isFatal = true := by
  unfold declared at failed
  split at failed
  · cases failed
  · unfold Header.Reading.ofText Header.Reading.ofChars at failed
    simp only at failed
    split at failed
    · cases failed
    · cases failed
      rfl

/-- **A build leaves its loader as it was, or with the entries of its archives.** -/
theorem advance_build (loader : Loader) (header : String) (archives : List Archive)
    (files : List Mapping.File) :
    Advance archives loader (loader.build header archives files).2 := by
  rw [build_eq]
  cases declared header with
  | error fault => exact .kept rfl
  | ok reading =>
      have advance := @advance_entered archives loader reading
      simp only
      split
      · rename_i after done
        rw [done] at advance
        exact advance
      · rename_i after done
        rw [done] at advance
        exact advance.trans (.kept rfl)

/-- A build fails only by a header or by archives that cannot be read. -/
theorem fault_of_build {loader : Loader} {header : String} {archives : List Archive}
    {files : List Mapping.File} {fault : Fault}
    (failed : (loader.build header archives files).1 = .error fault) :
    fault.isFatal = true ∧
      (declared header = .error fault ∨ Expander.expandAll archives = .error fault) := by
  rw [build_eq] at failed
  cases read : declared header with
  | error cause =>
      rw [read] at failed
      cases failed
      exact ⟨isFatal_of_declared read, .inl rfl⟩
  | ok reading =>
      simp only [read] at failed
      split at failed
      · rename_i refused
        cases failed
        have fatal := fault_of_entered (congrArg Prod.fst refused)
        exact ⟨fatal.1, .inr fatal.2⟩
      · cases failed

/-- A failed build has registered nothing. -/
theorem cleared_of_failed {loader : Loader} {header : String} {archives : List Archive}
    {files : List Mapping.File} {fault : Fault}
    (failed : (loader.build header archives files).1 = .error fault) :
    (loader.build header archives files).2.cleared = loader.cleared := by
  rcases (fault_of_build failed).2 with unread | refused
  · rw [build_eq, unread]
    rfl
  · exact (advance_build loader header archives files).cleared_of_refused refused

/-- **A failed build leaves no trace.** Its fault is fatal, the registry and the expander are what
they were, and no later run can tell that it was made. -/
theorem failed_build_leaves_no_trace (loader : Loader) (header : String)
    (archives : List Archive) (files : List Mapping.File) (fault : Fault)
    (failed : (loader.build header archives files).1 = .error fault) :
    let left := (loader.build header archives files).2
    fault.isFatal = true ∧
      ((∃ detail line column, fault = .parse detail line column) ∨
        ∃ detail, fault = .archiveRead detail) ∧
      left.registry = loader.registry ∧ left.expander = loader.expander ∧
      ∀ calls, left.answers calls = loader.answers calls ∧
        (left.after calls).registry = (loader.after calls).registry ∧
        (left.after calls).expander = (loader.after calls).expander := by
  intro left
  have fatal := (fault_of_build failed).1
  have same : left.cleared = loader.cleared := cleared_of_failed failed
  refine ⟨fatal, Fault.isFatal_iff.mp fatal, registry_of_cleared same, expander_of_cleared same, ?_⟩
  intro calls
  have further := after_of_cleared same calls
  exact ⟨answers_of_cleared same calls, registry_of_cleared further, expander_of_cleared further⟩

/-- A build that has entered one type breaks off at an archive that is cut short. The type stays in
the draft, and no later run shows it. -/
theorem torn_archive_leaves_no_trace : ∃ built,
    (ofSettings .default).build "import java.lang.String;\nimport a.B;" [⟨"torn", [1]⟩] [] = built ∧
      (built.1 = .error (.archiveRead "torn: failed to read entire block") ∧
        built.2.draft.factTypes = ["String"]) ∧
      ∀ calls, built.2.answers calls = (ofSettings .default).answers calls := by
  have failed :
      let built := (ofSettings .default).build "import java.lang.String;\nimport a.B;"
        [⟨"torn", [1]⟩] []
      built.1 = .error (.archiveRead "torn: failed to read entire block") ∧
        built.2.draft.factTypes = ["String"] := by
    decide +kernel
  refine ⟨_, rfl, failed, fun calls => ?_⟩
  exact ((failed_build_leaves_no_trace _ _ _ _ _ failed.1).2.2.2.2 calls).1

end Loader

end RuleVocabulary
