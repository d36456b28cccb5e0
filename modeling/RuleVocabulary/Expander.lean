import RuleVocabulary.Archive.Basic
import RuleVocabulary.Registry.Basic

/-!
# Expanding archives once

An expander makes sure that archives are expanded into a registry at most once until it is reset.
All archives are expanded before anything is registered, so an archive that cannot be read leaves
the registry as it was.
-/

set_option autoImplicit false

namespace RuleVocabulary

/-- Whether archives have been expanded since the last reset, and how often they ever were. -/
structure Expander where
  expanded : Bool
  expansions : Nat
deriving DecidableEq, Repr

namespace Expander

/-- An expander that has expanded nothing. -/
def fresh : Expander := ⟨false, 0⟩

/-- Allows another expansion. -/
def reset (expander : Expander) : Expander :=
  { expander with expanded := false }

/-- The entries of several archives in order, or the fault of the first that cannot be read. -/
def expandAll : List Archive → Except Fault (List Archive.Entry)
  | [] => .ok []
  | archive :: archives =>
    match archive.expand with
    | .error fault => .error fault
    | .ok entries =>
      match expandAll archives with
      | .error fault => .error fault
      | .ok more => .ok (entries ++ more)

/-- What an expansion comes to: whether it ran, and the expander and the registry after it. -/
structure Result where
  ran : Bool
  expander : Expander
  registry : Registry

/-- Expands archives into a registry, unless that happened before or there are none. -/
def expandInto (expander : Expander) (archives : List Archive) (registry : Registry) :
    Except Fault Result :=
  if expander.expanded || archives.isEmpty then .ok ⟨false, expander, registry⟩
  else
    match expandAll archives with
    | .error fault => .error fault
    | .ok entries => .ok ⟨true, ⟨true, expander.expansions + 1⟩, registry.register entries⟩

end Expander

end RuleVocabulary
