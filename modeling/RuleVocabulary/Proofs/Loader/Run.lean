import RuleVocabulary.Loader

/-!
# Runs of calls on a loader

A run is a sequence of builds and resets. What a call answers, and what it makes of the settings,
the registry and the expander, does not depend on the draft that earlier builds left
(`call_of_cleared`), so neither does what a whole run answers (`answers_of_cleared`,
`after_of_cleared`).
-/

set_option autoImplicit false

namespace RuleVocabulary.Loader

/-- A call on a loader. -/
inductive Call where
  | build (header : String) (archives : List Archive) (files : List Mapping.File)
  | reset
deriving DecidableEq

/-- Performs a call. A reset answers nothing. -/
def call (loader : Loader) : Call → Option (Except Fault Outcome) × Loader
  | .build header archives files =>
    let built := loader.build header archives files
    (some built.1, built.2)
  | .reset => (none, loader.reset)

/-- What the calls of a run answer. -/
def answers (loader : Loader) : List Call → List (Option (Except Fault Outcome))
  | [] => []
  | call :: calls => (loader.call call).1 :: (loader.call call).2.answers calls

/-- The loader after a run. -/
def after (loader : Loader) (calls : List Call) : Loader :=
  calls.foldl (fun loader call => (loader.call call).2) loader

theorem after_nil (loader : Loader) : loader.after [] = loader :=
  rfl

theorem after_cons (loader : Loader) (call : Call) (calls : List Call) :
    loader.after (call :: calls) = (loader.call call).2.after calls :=
  rfl

theorem after_append (loader : Loader) (first second : List Call) :
    loader.after (first ++ second) = (loader.after first).after second :=
  List.foldl_append ..

theorem after_concat (loader : Loader) (calls : List Call) (call : Call) :
    loader.after (calls ++ [call]) = ((loader.after calls).call call).2 :=
  after_append loader calls [call]

/-! ## The draft does not matter -/

/-- A build begins with an empty draft. -/
theorem build_cleared (loader : Loader) (header : String) (archives : List Archive)
    (files : List Mapping.File) :
    loader.cleared.build header archives files = loader.build header archives files :=
  rfl

variable {first second : Loader}

theorem settings_of_cleared (same : first.cleared = second.cleared) :
    first.settings = second.settings :=
  show first.cleared.settings = second.cleared.settings from congrArg Loader.settings same

theorem registry_of_cleared (same : first.cleared = second.cleared) :
    first.registry = second.registry :=
  show first.cleared.registry = second.cleared.registry from congrArg Loader.registry same

theorem expander_of_cleared (same : first.cleared = second.cleared) :
    first.expander = second.expander :=
  show first.cleared.expander = second.cleared.expander from congrArg Loader.expander same

theorem build_of_cleared (same : first.cleared = second.cleared) (header : String)
    (archives : List Archive) (files : List Mapping.File) :
    first.build header archives files = second.build header archives files := by
  rw [← build_cleared first, same, build_cleared]

theorem reset_of_cleared (same : first.cleared = second.cleared) :
    first.reset.cleared = second.reset.cleared :=
  congrArg Loader.reset same

theorem call_of_cleared (same : first.cleared = second.cleared) (call : Call) :
    (first.call call).1 = (second.call call).1 ∧
      (first.call call).2.cleared = (second.call call).2.cleared := by
  cases call with
  | build header archives files =>
      simp only [Loader.call, build_of_cleared same, and_self]
  | reset => exact ⟨rfl, reset_of_cleared same⟩

/-- **What a run answers does not depend on the draft.** -/
theorem answers_of_cleared (same : first.cleared = second.cleared) (calls : List Call) :
    first.answers calls = second.answers calls := by
  induction calls generalizing first second with
  | nil => rfl
  | cons call calls ih =>
      obtain ⟨answer, left⟩ := call_of_cleared same call
      rw [answers, answers, answer, ih left]

theorem after_of_cleared (same : first.cleared = second.cleared) (calls : List Call) :
    (first.after calls).cleared = (second.after calls).cleared := by
  induction calls generalizing first second with
  | nil => exact same
  | cons call calls ih =>
      rw [after_cons, after_cons]
      exact ih (call_of_cleared same call).2

end RuleVocabulary.Loader
