import RuleVocabulary.Proofs.Registry.Growth
import RuleVocabulary.Proofs.Registry.Lookup

/-!
# Archives that arrive

The entries of an archive are new to a registry if nothing is stored under their paths yet
(`IsNew`). They leave the stored bytes alone, so every name still has the type that it had: the
registry lies below what it becomes (`below_register`), and below what a line of such archives makes
of it (`below_of_arrives`). Names that nobody knew may come to have a type, or a description that
cannot be read; arrays follow their elements.
-/

set_option autoImplicit false

namespace RuleVocabulary

namespace Registry

variable {registry before after : Registry} {entries : List Archive.Entry} {name : String}
  {type : Descriptor}

/-- Nothing is stored yet under the paths of the entries. -/
def IsNew (registry : Registry) (entries : List Archive.Entry) : Prop :=
  ∀ entry ∈ entries, registry.resources[entry.path]? = none

/-- Entries with new paths leave the bytes alone that are stored. -/
theorem getElem?_register_of_isNew (new : registry.IsNew entries) {path : String}
    {bytes : List UInt8} (stored : registry.resources[path]? = some bytes) :
    (registry.register entries).resources[path]? = some bytes := by
  have unwritten : Archive.lastBytes entries path = none := by
    rw [Archive.lastBytes, Option.map_eq_none_iff, List.find?_eq_none]
    intro entry member same
    have unknown := new entry (List.mem_reverse.mp member)
    rw [of_decide_eq_true same, stored] at unknown
    cases unknown
  rw [getElem?_register, unwritten, Option.none_or, stored]

theorem lookup_register_of_isNew (new : registry.IsNew entries)
    (known : registry.lookup name = .ok (some type)) :
    (registry.register entries).lookup name = .ok (some type) := by
  induction name using lookup_induction generalizing type with
  | plain name brackets =>
      rw [lookup_plain brackets, lookupPlain] at known ⊢
      have ambient : (registry.register entries).ambient = registry.ambient := rfl
      rw [ambient]
      cases listed : registry.ambient[name]? with
      | some one => rwa [listed] at known
      | none =>
          rw [listed] at known
          have path : (registry.register entries).resourcePath name = registry.resourcePath name :=
            rfl
          rw [path]
          cases stored : registry.resources[registry.resourcePath name]? with
          | none =>
              rw [stored] at known
              cases known
          | some bytes =>
              rw [stored] at known
              rw [getElem?_register_of_isNew new stored]
              exact known
  | array name element brackets ih =>
      rw [lookup_array brackets] at known ⊢
      split at known
      · rename_i inner looked
        rw [ih looked]
        exact known
      · cases known
      · cases known

theorem size_le_size_register (registry : Registry) (entries : List Archive.Entry) :
    registry.resources.size ≤ (registry.register entries).resources.size := by
  unfold register
  generalize registry.resources = resources
  induction entries generalizing resources with
  | nil => exact Nat.le_refl _
  | cons entry entries ih =>
      exact Nat.le_trans Std.ExtTreeMap.size_le_size_insert (ih _)

/-- **A registry lies below what it becomes when an archive arrives whose paths are new to it.** -/
theorem below_register (new : registry.IsNew entries) :
    registry.Below (registry.register entries) where
  lookup _ _ known := lookup_register_of_isNew new known
  height := by
    have grown := size_le_size_register registry entries
    have ambient : (registry.register entries).ambient = registry.ambient := rfl
    rw [height, height, ambient]
    omega

/-- Archives arrive one after the other, each with paths that are new by then. -/
inductive Arrives : Registry → List (List Archive.Entry) → Registry → Prop where
  | nothing (registry : Registry) : Arrives registry [] registry
  | archive {registry final : Registry} {entries : List Archive.Entry}
      {later : List (List Archive.Entry)} (new : registry.IsNew entries)
      (rest : Arrives (registry.register entries) later final) :
      Arrives registry (entries :: later) final

theorem Below.refl (registry : Registry) : registry.Below registry :=
  ⟨fun _ _ known => known, Nat.le_refl _⟩

theorem Below.trans {first second third : Registry} (earlier : first.Below second)
    (later : second.Below third) : first.Below third :=
  ⟨fun name type known => later.lookup name type (earlier.lookup name type known),
    Nat.le_trans earlier.height later.height⟩

theorem below_of_arrives {archives : List (List Archive.Entry)}
    (arrives : before.Arrives archives after) : before.Below after := by
  induction arrives with
  | nothing registry => exact .refl registry
  | archive new _ ih => exact (below_register new).trans ih

end Registry

end RuleVocabulary
