import Std.Data.ExtTreeMap
import RuleVocabulary.Fault
import RuleVocabulary.Archive.Tar
import RuleVocabulary.Descriptor.Json
import RuleVocabulary.Registry.Ambient
import RuleVocabulary.Settings.Basic
import RuleVocabulary.Text.Blank

/-!
# The type registry

A registry knows types in two ways. Ambient types are known by name; the first definition of a name
stays. Resources are the bytes that archives hold under their paths; the last bytes registered
under a path count, and they are read only when the type they describe is looked up. The name of
an array is known whenever the name of its elements is. Main statements: a lookup never renames a
type (`name_of_lookup`), and the equations `lookup_array` and `lookup_plain`.
-/

set_option autoImplicit false

namespace RuleVocabulary

/-- The types that can be looked up. Ambient types are kept under their own names. -/
structure Registry where
  ambient : Std.ExtTreeMap String Descriptor compare
  resources : Std.ExtTreeMap String (List UInt8) compare
  resourceSuffix : String
  ambient_name : ∀ (name : String) (descriptor : Descriptor),
    ambient[name]? = some descriptor → descriptor.name = name

namespace Registry

/-- The descriptor kept under a name once the given one has been defined. -/
def kept (registry : Registry) (descriptor : Descriptor) : Descriptor :=
  registry.ambient[descriptor.name]?.getD descriptor

/-- Whether a name is ambient. -/
def isAmbient (registry : Registry) (name : String) : Bool :=
  registry.ambient.contains name

/-- Defines an ambient type, unless its name is ambient already. -/
def define (registry : Registry) (descriptor : Descriptor) : Registry :=
  { registry with
    ambient := registry.ambient.insertIfNew descriptor.name descriptor
    ambient_name := by
      intro name found present
      rw [Std.ExtTreeMap.getElem?_insertIfNew] at present
      split at present
      · rename_i new
        obtain rfl := Option.some.inj present
        exact Std.LawfulEqCmp.eq_of_compare new.1
      · exact registry.ambient_name name found present }

/-- A registry without types. -/
def empty (resourceSuffix : String) : Registry := ⟨∅, ∅, resourceSuffix, by simp⟩

/-- The registry that a loader with the given settings starts with. -/
def ofSettings (settings : Settings) : Registry :=
  Ambient.types.foldl define (empty settings.resourceSuffix)

/-- Registers the entries of an archive in order. -/
def register (registry : Registry) (entries : List Archive.Entry) : Registry :=
  { registry with
    resources := entries.foldl (fun known entry => known.insert entry.path entry.bytes)
      registry.resources }

/-- Forgets all resources. -/
def clear (registry : Registry) : Registry :=
  { registry with resources := ∅ }

/-- The path at which the descriptor of a type is stored: dots separate directories. -/
def resourcePath (registry : Registry) (name : String) : String :=
  String.ofList (name.toList.map fun c => if c = '.' then '/' else c) ++ registry.resourceSuffix

/-- Reads the stored descriptor of a type. It must describe the type it is stored for. -/
def readDescriptor (name : String) (bytes : List UInt8) : Except Fault Descriptor :=
  match Descriptor.ofJson bytes with
  | .error failure => .error (.descriptor name (failure.message bytes))
  | .ok descriptor =>
    if descriptor.name = name then .ok descriptor
    else .error (.descriptor name ("resource declares type " ++ descriptor.name))

/-- Looks up a name that is not the name of an array. -/
def lookupPlain (registry : Registry) (name : String) : Except Fault (Option Descriptor) :=
  match registry.ambient[name]? with
  | some descriptor => .ok (some descriptor)
  | none =>
    match registry.resources[registry.resourcePath name]? with
    | some bytes => (readDescriptor name bytes).map some
    | none => .ok none

theorem length_trimEnd_le (text : List Char) : (Text.trimEnd text).length ≤ text.length := by
  have := (List.dropWhile_sublist Text.isBlank (l := text.reverse)).length_le
  simpa [Text.trimEnd, Text.dropEndWhile] using this

/-- Looks up a name. An array is known whenever its elements are, whose name may have blanks
behind it. -/
def lookupChars (registry : Registry) (name : List Char) : Except Fault (Option Descriptor) :=
  match found : Name.element? name with
  | some element =>
    have : (Text.trimEnd element).length < name.length :=
      Nat.lt_of_le_of_lt (length_trimEnd_le element) (Name.length_element?_lt found)
    match registry.lookupChars (Text.trimEnd element) with
    | .ok (some _) => .ok (some (.bare (String.ofList name) .array))
    | .ok none => .ok none
    | .error fault => .error fault
  | none => registry.lookupPlain (String.ofList name)
termination_by name.length

/-- Looks up a qualified name. -/
def lookup (registry : Registry) (name : String) : Except Fault (Option Descriptor) :=
  registry.lookupChars name.toList

/-- A number that no line of distinct types reaches in which each inherits from the one before:
one more than the types that may be in it, of which at most two are arrays. -/
def height (registry : Registry) : Nat :=
  registry.ambient.size + registry.resources.size + 3

/-! ## Lookups -/

theorem lookup_array {registry : Registry} {name : String} {element : List Char}
    (array : Name.element? name.toList = some element) :
    registry.lookup name =
      match registry.lookup (String.ofList (Text.trimEnd element)) with
      | .ok (some _) => .ok (some (.bare name .array))
      | .ok none => .ok none
      | .error fault => .error fault := by
  rw [lookup, lookupChars]
  split
  · rename_i found same
    rw [array] at same
    obtain rfl := Option.some.inj same
    simp only [lookup, String.toList_ofList, String.ofList_toList]
  · rename_i same
    rw [array] at same
    simp at same

theorem lookup_plain {registry : Registry} {name : String}
    (plain : Name.element? name.toList = none) :
    registry.lookup name = registry.lookupPlain name := by
  rw [lookup, lookupChars]
  split
  · rename_i same
    rw [plain] at same
    simp at same
  · simp only [String.ofList_toList]

theorem name_of_readDescriptor {name : String} {bytes : List UInt8} {found : Descriptor}
    (read : readDescriptor name bytes = .ok found) : found.name = name := by
  unfold readDescriptor at read
  split at read
  · simp at read
  · split at read
    · rename_i same
      obtain rfl := Except.ok.inj read
      exact same
    · simp at read

theorem name_of_lookupPlain {registry : Registry} {name : String} {found : Descriptor}
    (known : registry.lookupPlain name = .ok (some found)) : found.name = name := by
  unfold lookupPlain at known
  split at known
  · rename_i descriptor ambient
    obtain rfl := Option.some.inj (Except.ok.inj known)
    exact registry.ambient_name name _ ambient
  · split at known
    · rename_i bytes _
      cases read : readDescriptor name bytes with
      | error fault => simp [read, Except.map] at known
      | ok descriptor =>
        obtain rfl : descriptor = found := by simpa [read, Except.map] using known
        exact name_of_readDescriptor read
    · simp at known

/-- A lookup never renames a type. -/
theorem name_of_lookup {registry : Registry} {name : String} {found : Descriptor}
    (known : registry.lookup name = .ok (some found)) : found.name = name := by
  cases array : Name.element? name.toList with
  | none => exact name_of_lookupPlain (lookup_plain array ▸ known)
  | some element =>
    rw [lookup_array array] at known
    split at known
    · obtain rfl := Option.some.inj (Except.ok.inj known)
      rfl
    · simp at known
    · simp at known

end Registry

end RuleVocabulary
