import RuleVocabulary.Proofs.Descriptor
import RuleVocabulary.Proofs.Registry.Ambient

/-!
# Registries after changes

A registry changes in three ways: a type is defined, entries are registered, or all entries are
forgotten. After any number of changes it keeps the first definition of each name, the ambient
types first, and the last bytes registered under each path since entries were last forgotten
(`Reflects`). Each change preserves this (`reflects_change`), so it holds after every run
(`reflects_changed`).

Main statement: a name without brackets means its first definition, and where there is none what
the bytes under its path describe; a name with brackets is that of an array exactly when the name
of its elements is known (`lookup_changed`). Definitions are never shadowed by entries, and two
names that share a path do not answer for each other.
-/

set_option autoImplicit false

namespace RuleVocabulary

namespace Archive

theorem lastBytes_append (earlier later : List Entry) (path : String) :
    lastBytes (earlier ++ later) path = (lastBytes later path).or (lastBytes earlier path) := by
  rw [lastBytes, List.reverse_append, List.find?_append, Option.map_or]
  rfl

end Archive

namespace Registry

/-- A change of a registry. -/
inductive Change where
  | define (type : Descriptor)
  | register (entries : List Archive.Entry)
  | clear

/-- The registry after a change. -/
def change (registry : Registry) : Change → Registry
  | .define type => registry.define type
  | .register entries => registry.register entries
  | .clear => registry.clear

/-- The registry after several changes. -/
def changed (registry : Registry) (changes : List Change) : Registry :=
  changes.foldl change registry

/-- The types that are defined by changes, in order. -/
def definitions (changes : List Change) : List Descriptor :=
  changes.filterMap fun
    | .define type => some type
    | _ => none

/-- The entries registered by changes and not forgotten again, in order. -/
def registered (changes : List Change) : List Archive.Entry :=
  changes.foldl
    (fun entries => fun
      | .define _ => entries
      | .register more => entries ++ more
      | .clear => [])
    []

/-- What a registry made with the given settings knows after changes. -/
structure Reflects (settings : Settings) (changes : List Change) (registry : Registry) :
    Prop where
  ambient : ∀ name, registry.ambient[name]? =
    (Ambient.types ++ definitions changes).find? (·.name = name)
  resources : ∀ path, registry.resources[path]? = Archive.lastBytes (registered changes) path
  suffix : registry.resourceSuffix = settings.resourceSuffix

theorem changed_concat (registry : Registry) (changes : List Change) (last : Change) :
    registry.changed (changes ++ [last]) = (registry.changed changes).change last := by
  rw [changed, List.foldl_append]
  rfl

/-- What a change preserves. -/
theorem reflects_change {settings : Settings} {changes : List Change} {registry : Registry}
    (reflects : Reflects settings changes registry) (last : Change) :
    Reflects settings (changes ++ [last]) (registry.change last) := by
  have entries : registered (changes ++ [last]) = match last with
      | .define _ => registered changes
      | .register more => registered changes ++ more
      | .clear => [] := by
    rw [registered, List.foldl_append]
    rfl
  cases last with
  | define type =>
      refine ⟨?_, ?_, reflects.suffix⟩
      · intro name
        have defined := ambient_foldl_define registry [type] name
        rw [reflects.ambient, ← List.find?_append, List.append_assoc] at defined
        rw [definitions, List.filterMap_append]
        exact defined
      · intro path
        rw [entries]
        exact reflects.resources path
  | register more =>
      refine ⟨?_, ?_, reflects.suffix⟩
      · intro name
        rw [definitions, List.filterMap_append, List.filterMap_cons_none rfl, List.filterMap_nil,
          List.append_nil]
        exact reflects.ambient name
      · intro path
        rw [entries, Archive.lastBytes_append, ← reflects.resources path]
        exact getElem?_register registry more path
  | clear =>
      refine ⟨?_, ?_, reflects.suffix⟩
      · intro name
        rw [definitions, List.filterMap_append, List.filterMap_cons_none rfl, List.filterMap_nil,
          List.append_nil]
        exact reflects.ambient name
      · intro path
        rw [entries]
        exact Std.ExtTreeMap.getElem?_empty

theorem resourceSuffix_foldl_define (registry : Registry) (types : List Descriptor) :
    (types.foldl define registry).resourceSuffix = registry.resourceSuffix := by
  induction types generalizing registry with
  | nil => rfl
  | cons type types ih => rw [List.foldl_cons, ih, define]

/-- **After any changes a registry knows the first definitions and the last bytes.** -/
theorem reflects_changed (settings : Settings) (changes : List Change) :
    Reflects settings changes ((ofSettings settings).changed changes) := by
  induction changes using List.reverseRecOn with
  | nil =>
      rw [changed, List.foldl_nil]
      refine ⟨?_, ?_, ?_⟩
      · intro name
        rw [definitions, List.filterMap_nil, List.append_nil]
        exact ambient_ofSettings settings name
      · intro path
        rw [resources_ofSettings]
        exact Std.ExtTreeMap.getElem?_empty
      · rw [ofSettings, resourceSuffix_foldl_define, empty]
  | append_singleton changes last ih =>
      rw [changed_concat]
      exact reflects_change ih last

/-! ## What a name means -/

/-- The path under which the type of a name is stored. -/
def storedPath (settings : Settings) (name : String) : String :=
  String.ofList (name.toList.map fun c => if c = '.' then '/' else c) ++ settings.resourceSuffix

/-- What the last bytes under the path of a name tell of it. -/
def storedMeaning (name : String) : Option (List UInt8) → Except Fault (Option Descriptor)
  | none => .ok none
  | some bytes =>
    match Descriptor.ofJson bytes with
    | .error failure => .error (.descriptor name (failure.message bytes))
    | .ok type =>
      if type.name = name then .ok (some type)
      else .error (.descriptor name ("resource declares type " ++ type.name))

theorem lookup_of_reflects {settings : Settings} {changes : List Change} {registry : Registry}
    (reflects : Reflects settings changes registry) {name : String}
    (plain : ∀ element, name ≠ element ++ "[]") :
    registry.lookup name =
      match (Ambient.types ++ definitions changes).find? (·.name = name) with
      | some type => .ok (some type)
      | none =>
        storedMeaning name (Archive.lastBytes (registered changes) (storedPath settings name)) := by
  have path : registry.resourcePath name = storedPath settings name := by
    rw [resourcePath, storedPath, reflects.suffix]
  rw [lookup_plain (Name.element?_eq_none_iff.mpr plain), lookupPlain, reflects.ambient,
    reflects.resources, path]
  cases (Ambient.types ++ definitions changes).find? (·.name = name) with
  | some type => rfl
  | none =>
      cases Archive.lastBytes (registered changes) (storedPath settings name) with
      | none => rfl
      | some bytes =>
          simp only [storedMeaning, readDescriptor]
          cases Descriptor.ofJson bytes with
          | error failure => rfl
          | ok type =>
              by_cases same : type.name = name
              · simp only [if_pos same, Except.map]
              · simp only [if_neg same, Except.map]

/-- **What a name means after any changes.** Without brackets: the first type defined under it,
ambient types first; where there is none, nothing if no bytes are registered under its path, and
else what the last of these describe, which must be a type of that name. With brackets: an array,
a fault or nothing, as what stands before them without trailing blanks is a type, a fault or
nothing. Whatever is found has the name that was looked up. -/
theorem lookup_changed (settings : Settings) (changes : List Change) (name : String) :
    ((∀ element, name ≠ element ++ "[]") → ∀ type,
      (Ambient.types ++ definitions changes).find? (·.name = name) = some type →
      ((ofSettings settings).changed changes).lookup name = .ok (some type)) ∧
    ((∀ element, name ≠ element ++ "[]") →
      (∀ type ∈ Ambient.types ++ definitions changes, type.name ≠ name) →
      ((ofSettings settings).changed changes).lookup name = storedMeaning name
        (Archive.lastBytes (registered changes) (storedPath settings name))) ∧
    (∀ element, name = element ++ "[]" → ∀ inner,
      inner = ((ofSettings settings).changed changes).lookup
        (String.ofList (Text.trimEnd element.toList)) →
      (∀ type, ((ofSettings settings).changed changes).lookup name = .ok (some type) ↔
        (∃ elementType, inner = .ok (some elementType)) ∧ type = ⟨name, .array, [], []⟩) ∧
      (((ofSettings settings).changed changes).lookup name = .ok none ↔ inner = .ok none) ∧
      ∀ fault, ((ofSettings settings).changed changes).lookup name = .error fault ↔
        inner = .error fault) ∧
    ∀ type, ((ofSettings settings).changed changes).lookup name = .ok (some type) →
      type.name = name := by
  have reflects := reflects_changed settings changes
  generalize (ofSettings settings).changed changes = registry at reflects
  refine ⟨?_, ?_, ?_, fun type known => name_of_lookup known⟩
  · intro plain type first
    rw [lookup_of_reflects reflects plain, first]
  · intro plain undefined
    have none : (Ambient.types ++ definitions changes).find? (·.name = name) = none :=
      List.find?_eq_none.mpr fun type member => by simpa using undefined type member
    rw [lookup_of_reflects reflects plain, none]
  · rintro element rfl inner rfl
    rw [lookup_array (Name.element?_append_brackets element)]
    cases registry.lookup (String.ofList (Text.trimEnd element.toList)) with
    | error fault => simp
    | ok found =>
        cases found with
        | none => simp
        | some type => simp [Descriptor.bare, eq_comm]

/-- A name that is defined twice, and an entry under a path that two names share. -/
def overlapping : List Change :=
  [.define (.bare "a.B" .classType), .define (.bare "a.B" .interface),
    .register [⟨"a/C.type.json", (Descriptor.bare "a.C" .interface).stored⟩], .clear,
    .register [⟨"a/C.type.json", (Descriptor.bare "a/C" .interface).stored⟩]]

/-- The first definition and the last bytes count, and the bytes answer for one name only. -/
theorem lookup_changed_overlapping :
    let registry := (ofSettings .default).changed overlapping
    registry.lookup "a.B" = .ok (some (.bare "a.B" .classType)) ∧
    registry.lookup "a/C" = .ok (some (.bare "a/C" .interface)) ∧
    registry.lookup "a.C" = .error (.descriptor "a.C" "resource declares type a/C") ∧
    registry.lookup "a.B [][]" = .ok (some ⟨"a.B [][]", .array, [], []⟩) := by
  intro registry
  have plain : ∀ name, Name.element? name.toList = none → ∀ element, name ≠ element ++ "[]" :=
    fun name => Name.element?_eq_none_iff.mp
  have bytes : Archive.lastBytes (registered overlapping) "a/C.type.json" =
      some (Descriptor.bare "a/C" .interface).stored := rfl
  have defined : registry.lookup "a.B" = .ok (some (.bare "a.B" .classType)) :=
    (lookup_changed .default overlapping "a.B").1 (plain _ (by decide)) _ (by decide)
  have array : registry.lookup "a.B []" = .ok (some ⟨"a.B []", .array, [], []⟩) :=
    (((lookup_changed .default overlapping "a.B []").2.2.1 "a.B " rfl _ rfl).1 _).mpr
      ⟨⟨_, defined⟩, rfl⟩
  refine ⟨defined, ?_, ?_, ?_⟩
  · have meant := (lookup_changed .default overlapping "a/C").2.1 (plain _ (by decide)) (by decide)
    rw [show storedPath .default "a/C" = "a/C.type.json" by decide, bytes, storedMeaning,
      Descriptor.ofJson_stored] at meant
    exact meant
  · have meant := (lookup_changed .default overlapping "a.C").2.1 (plain _ (by decide)) (by decide)
    rw [show storedPath .default "a.C" = "a/C.type.json" by decide, bytes, storedMeaning,
      Descriptor.ofJson_stored] at meant
    exact meant
  · exact (((lookup_changed .default overlapping "a.B [][]").2.2.1 "a.B []" rfl _ rfl).1 _).mpr
      ⟨⟨_, array⟩, rfl⟩

end Registry

end RuleVocabulary
