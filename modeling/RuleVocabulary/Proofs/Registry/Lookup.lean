import Mathlib.Data.List.Induction
import RuleVocabulary.Imports

/-!
# What a lookup answers

The name of an array leads to the name of its elements, and that one to a name without brackets.
What holds of all names without brackets, and passes from elements to arrays, holds of all names
(`lookup_induction`).

A registry is read without fatal faults, whether a name is looked up (`isFatal_of_lookup`) or
resolved in a scope (`Scope.isFatal_of_resolve`). Registering entries leaves the last bytes under
each path (`getElem?_register`).
-/

set_option autoImplicit false

namespace RuleVocabulary

namespace Archive

/-- The bytes of the last entry with the given path. -/
def lastBytes (entries : List Entry) (path : String) : Option (List UInt8) :=
  (entries.reverse.find? (·.path = path)).map Entry.bytes

theorem lastBytes_concat (entries : List Entry) (entry : Entry) (path : String) :
    lastBytes (entries ++ [entry]) path =
      if entry.path = path then some entry.bytes else lastBytes entries path := by
  by_cases same : entry.path = path <;> simp [lastBytes, same]

end Archive

namespace Name

/-- Brackets behind a name make the name of an array. -/
theorem element?_append_brackets (element : String) :
    element? (element ++ "[]").toList = some element.toList := by
  rw [element?, dropEnding?_eq_some_iff, String.toList_append]
  rfl

theorem element?_eq_none_iff {name : String} :
    element? name.toList = none ↔ ∀ element, name ≠ element ++ "[]" := by
  constructor
  · rintro plain element rfl
    rw [element?_append_brackets] at plain
    cases plain
  · intro other
    cases brackets : element? name.toList with
    | none => rfl
    | some element =>
        refine absurd ?_ (other (String.ofList element))
        rw [← String.toList_inj, String.toList_append, String.toList_ofList]
        exact dropEnding?_eq_some_iff.mp brackets

end Name

namespace Registry

/-! ## Names, from elements to arrays -/

/-- What holds of all names without brackets, and of an array whenever it holds of its elements,
holds of all names. -/
theorem lookup_induction {motive : String → Prop}
    (plain : ∀ name, Name.element? name.toList = none → motive name)
    (array : ∀ name element, Name.element? name.toList = some element →
      motive (String.ofList (Text.trimEnd element)) → motive name)
    (name : String) : motive name := by
  induction size : name.toList.length using Nat.strongRecOn generalizing name with
  | _ size ih =>
      cases brackets : Name.element? name.toList with
      | none => exact plain name brackets
      | some element =>
          refine array name element brackets (ih _ ?_ _ rfl)
          have shorter := Name.length_element?_lt brackets
          have trimmed := length_trimEnd_le element
          rw [String.toList_ofList]
          omega

/-! ## Faults -/

theorem isFatal_of_readDescriptor {name : String} {bytes : List UInt8} {fault : Fault}
    (failed : readDescriptor name bytes = .error fault) : fault.isFatal = false := by
  unfold readDescriptor at failed
  split at failed
  · cases failed
    rfl
  · split at failed
    · cases failed
    · cases failed
      rfl

theorem isFatal_of_lookupPlain {registry : Registry} {name : String} {fault : Fault}
    (failed : registry.lookupPlain name = .error fault) : fault.isFatal = false := by
  unfold lookupPlain at failed
  split at failed
  · cases failed
  · split at failed
    · rename_i bytes _
      cases read : readDescriptor name bytes with
      | error cause =>
          rw [read] at failed
          cases failed
          exact isFatal_of_readDescriptor read
      | ok descriptor =>
          rw [read] at failed
          cases failed
    · cases failed

/-- A lookup never fails fatally. -/
theorem isFatal_of_lookup {registry : Registry} {name : String} {fault : Fault}
    (failed : registry.lookup name = .error fault) : fault.isFatal = false := by
  induction name using lookup_induction with
  | plain name brackets =>
      rw [lookup_plain brackets] at failed
      exact isFatal_of_lookupPlain failed
  | array name element brackets ih =>
      rw [lookup_array brackets] at failed
      split at failed
      · cases failed
      · cases failed
      · rename_i cause known
        cases failed
        exact ih known

/-! ## Registering -/

/-- The last bytes registered under a path count. -/
theorem getElem?_register (registry : Registry) (entries : List Archive.Entry) (path : String) :
    (registry.register entries).resources[path]? =
      (Archive.lastBytes entries path).or registry.resources[path]? := by
  induction entries using List.reverseRecOn with
  | nil => rfl
  | append_singleton entries entry ih =>
      have last : (registry.register (entries ++ [entry])).resources =
          (registry.register entries).resources.insert entry.path entry.bytes := by
        simp only [register, List.foldl_append, List.foldl_cons, List.foldl_nil]
      rw [last, Std.ExtTreeMap.getElem?_insert, Archive.lastBytes_concat, ih]
      by_cases same : entry.path = path
      · simp [same]
      · have different : compare entry.path path ≠ .eq := fun equal =>
          same (Std.LawfulEqCmp.eq_of_compare equal)
        simp [same, different]

end Registry

/-- Trying several names never fails fatally. -/
theorem Scope.isFatal_of_firstKnown {registry : Registry} {names : List String} {fault : Fault}
    (failed : firstKnown registry names = .error fault) : fault.isFatal = false := by
  induction names with
  | nil => cases failed
  | cons name names ih =>
      cases known : registry.lookup name with
      | error cause =>
          simp only [firstKnown, known] at failed
          cases failed
          exact Registry.isFatal_of_lookup known
      | ok found =>
          cases found with
          | none =>
              simp only [firstKnown, known] at failed
              exact ih failed
          | some type =>
              simp only [firstKnown, known] at failed
              cases failed

/-- Resolving a name in a scope never fails fatally. -/
theorem Scope.isFatal_of_resolve {scope : Scope} {registry : Registry} {name : String}
    {fault : Fault} (failed : scope.resolve registry name = .error fault) :
    fault.isFatal = false :=
  isFatal_of_firstKnown failed

end RuleVocabulary
