import Mathlib.Data.List.Nodup
import Mathlib.Data.List.Perm.Subperm
import Mathlib.Logic.Relation
import RuleVocabulary.Inspection
import RuleVocabulary.Proofs.Registry.Lookup

/-!
# Types above a type

A type inherits from the types that its supertypes are found to be (`Registry.Inherits`). Nothing
forbids that such lines of types run into a name nobody knows, or back into themselves; a type is
complete if the first never happens above it, and acyclic if the second never does.

An inspection calls itself along these lines, and gives up when a name returns. The names on the
way to a call are then different, and all of them are known. Those without brackets are ambient or
stored, so there are no more of them than the registry has entries (`length_le_of_plain`). An
array inherits from the universal base alone, so among different names there are at most two
arrays: the one that the base follows, and the last one. This bounds the depth of the calls
(`Nested.length_lt_height`), whatever the registry holds.
-/

set_option autoImplicit false

namespace RuleVocabulary

/-- Whether a name is that of an array. -/
def Name.isArray (name : String) : Bool :=
  (Name.element? name.toList).isSome

namespace Registry

variable {registry : Registry}

/-- The second type is what a supertype of the first one is found to be. -/
def Inherits (registry : Registry) (type parent : Descriptor) : Prop :=
  ∃ supertype ∈ type.allSupertypes, registry.lookup supertype = .ok (some parent)

/-- The second type is the first one or above it. -/
abbrev Above (registry : Registry) : Descriptor → Descriptor → Prop :=
  Relation.ReflTransGen registry.Inherits

/-- The second type is above the first one. -/
abbrev StrictlyAbove (registry : Registry) : Descriptor → Descriptor → Prop :=
  Relation.TransGen registry.Inherits

/-- All supertypes of a type and of the types above it are known. -/
def Complete (registry : Registry) (type : Descriptor) : Prop :=
  ∀ other, registry.Above type other → ∀ supertype ∈ other.allSupertypes,
    ∃ found, registry.lookup supertype = .ok (some found)

/-- Neither a type nor one above it inherits from itself. -/
def Acyclic (registry : Registry) (type : Descriptor) : Prop :=
  ∀ other, registry.Above type other → ¬ registry.StrictlyAbove other other

theorem Inherits.known {type parent : Descriptor} (inherits : registry.Inherits type parent) :
    registry.lookup parent.name = .ok (some parent) := by
  obtain ⟨supertype, -, found⟩ := inherits
  rwa [name_of_lookup found]

/-- What is above a type that is found by its name is found by its own name. -/
theorem known_of_above {type other : Descriptor}
    (known : registry.lookup type.name = .ok (some type)) (above : registry.Above type other) :
    registry.lookup other.name = .ok (some other) := by
  rcases Relation.ReflTransGen.cases_tail above with rfl | ⟨_, -, inherits⟩
  · exact known
  · exact inherits.known

theorem Complete.of_inherits {type parent : Descriptor} (complete : registry.Complete type)
    (inherits : registry.Inherits type parent) : registry.Complete parent := by
  intro other above
  exact complete other (.head inherits above)

theorem Acyclic.of_inherits {type parent : Descriptor} (acyclic : registry.Acyclic type)
    (inherits : registry.Inherits type parent) : registry.Acyclic parent := by
  intro other above
  exact acyclic other (.head inherits above)

/-! ## How many names are known -/

/-- A name without brackets that is known is ambient, or its descriptor is stored. -/
theorem ambient_or_stored_of_lookup {name : String} {type : Descriptor}
    (plain : Name.isArray name = false) (known : registry.lookup name = .ok (some type)) :
    registry.ambient[name]? = some type ∨
      ∃ bytes, registry.resources[registry.resourcePath name]? = some bytes ∧
        Descriptor.ofJson bytes = .ok type := by
  have brackets : Name.element? name.toList = none := by simpa [Name.isArray] using plain
  rw [lookup_plain brackets] at known
  unfold lookupPlain at known
  split at known
  · rename_i descriptor ambient
    cases known
    exact .inl ambient
  · split at known
    · rename_i bytes stored
      refine .inr ⟨bytes, stored, ?_⟩
      cases read : readDescriptor name bytes with
      | error fault =>
          rw [read] at known
          cases known
      | ok descriptor =>
          rw [read] at known
          cases known
          unfold readDescriptor at read
          split at read
          · cases read
          · split at read
            · rename_i found decoded _
              cases read
              exact decoded
            · cases read
    · cases known

/-- The registry holds at least as many entries as it knows names without brackets. -/
theorem length_le_of_plain {names : List String} (distinct : names.Nodup)
    (known : ∀ name ∈ names, Name.isArray name = false ∧
      ∃ type, registry.lookup name = .ok (some type)) :
    names.length ≤ registry.ambient.size + registry.resources.size := by
  have ambient : (names.filter registry.isAmbient).length ≤ registry.ambient.size := by
    rw [← Std.ExtTreeMap.length_keys]
    refine (List.subperm_of_subset (distinct.filter _) ?_).length_le
    intro name member
    exact Std.ExtTreeMap.mem_keys.mpr (List.mem_filter.mp member).2
  have stored : (names.filter (!registry.isAmbient ·)).length ≤ registry.resources.size := by
    have found : ∀ name ∈ names.filter (!registry.isAmbient ·), ∃ type bytes,
        type.name = name ∧ registry.resources[registry.resourcePath name]? = some bytes ∧
          Descriptor.ofJson bytes = .ok type := by
      intro name member
      obtain ⟨listed, new⟩ := List.mem_filter.mp member
      obtain ⟨plain, type, looked⟩ := known name listed
      rcases ambient_or_stored_of_lookup plain looked with ambient | ⟨bytes, stored, decoded⟩
      · have absent : registry.isAmbient name = false := by simpa using new
        rw [isAmbient, Std.ExtTreeMap.contains_eq_isSome_getElem?, ambient] at absent
        cases absent
      · exact ⟨type, bytes, name_of_lookup looked, stored, decoded⟩
    have paths : ((names.filter (!registry.isAmbient ·)).map registry.resourcePath).Nodup := by
      refine List.Nodup.map_on ?_ (distinct.filter _)
      intro first one second other same
      obtain ⟨type, bytes, named, stored, decoded⟩ := found first one
      obtain ⟨type', bytes', named', stored', decoded'⟩ := found second other
      rw [same, stored'] at stored
      cases stored
      rw [decoded'] at decoded
      cases decoded
      exact named.symm.trans named'
    rw [← Std.ExtTreeMap.length_keys, ← List.length_map registry.resourcePath]
    refine (List.subperm_of_subset paths ?_).length_le
    intro path member
    obtain ⟨name, listed, rfl⟩ := List.mem_map.mp member
    obtain ⟨type, bytes, -, stored, -⟩ := found name listed
    exact Std.ExtTreeMap.mem_keys.mpr
      (Std.ExtTreeMap.mem_iff_isSome_getElem?.mpr (Option.isSome_of_eq_some stored))
  have parts := List.length_eq_length_filter_add registry.isAmbient (l := names)
  omega

/-! ## Nested calls -/

theorem not_isArray_universalBase : Name.isArray universalBase = false := by decide

/-- An array inherits from the universal base alone. -/
theorem base_of_array {type parent : Descriptor}
    (known : registry.lookup type.name = .ok (some type))
    (array : Name.isArray type.name = true) (inherits : registry.Inherits type parent) :
    parent.name = universalBase := by
  obtain ⟨element, brackets⟩ := Option.isSome_iff_exists.mp array
  obtain ⟨supertype, member, found⟩ := inherits
  have other : type.name ≠ universalBase := by
    intro same
    rw [same, not_isArray_universalBase] at array
    cases array
  have bare : type = .bare type.name .array := by
    rw [lookup_array brackets] at known
    split at known
    · exact (Option.some.inj (Except.ok.inj known)).symm
    · cases known
    · cases known
  have alone : type.allSupertypes = [universalBase] := by
    rw [bare]
    simp [Descriptor.allSupertypes, Descriptor.bare, Kind.inheritsBase, other]
  rw [alone, List.mem_singleton] at member
  rw [name_of_lookup found, member]

/-- The calls that the inspection of a type can come to: the names of the types on the way to a
call, the last one first, and the type that it is about. -/
inductive Nested (registry : Registry) (start : Descriptor) : List String → Descriptor → Prop where
  | start : Nested registry start [] start
  | step {path : List String} {type parent : Descriptor}
      (nested : Nested registry start path type) (new : type.name ∉ path)
      (inherits : registry.Inherits type parent) :
      Nested registry start (type.name :: path) parent

namespace Nested

variable {start type : Descriptor} {path : List String}

theorem known (begins : registry.lookup start.name = .ok (some start))
    (nested : Nested registry start path type) :
    registry.lookup type.name = .ok (some type) := by
  cases nested with
  | start => exact begins
  | step _ _ inherits => exact inherits.known

theorem distinct (nested : Nested registry start path type) : path.Nodup := by
  induction nested with
  | start => exact List.nodup_nil
  | step _ new _ ih => exact List.nodup_cons.mpr ⟨new, ih⟩

/-- The names on the way are those of types below. -/
theorem exists_below (begins : registry.lookup start.name = .ok (some start))
    (nested : Nested registry start path type) :
    ∀ name ∈ path, ∃ lower : Descriptor, registry.lookup name = .ok (some lower) ∧
      registry.StrictlyAbove lower type := by
  induction nested with
  | start => simp
  | step nested new inherits ih =>
      intro name member
      rcases List.mem_cons.mp member with rfl | earlier
      · exact ⟨_, nested.known begins, .single inherits⟩
      · obtain ⟨lower, looked, above⟩ := ih name earlier
        exact ⟨lower, looked, above.tail inherits⟩

/-- Behind each array on the way, the last one apart, stands the universal base. -/
theorem countP_isArray_le (begins : registry.lookup start.name = .ok (some start))
    (nested : Nested registry start path type) :
    path.countP Name.isArray ≤
      path.count universalBase + if type.name = universalBase then 1 else 0 := by
  induction nested with
  | start => simp
  | @step path type parent nested new inherits ih =>
      rw [List.countP_cons, List.count_cons]
      cases array : Name.isArray type.name with
      | true =>
          have other : type.name ≠ universalBase := by
            intro same
            rw [same, not_isArray_universalBase] at array
            cases array
          rw [if_neg other] at ih
          rw [if_pos (base_of_array (nested.known begins) array inherits)]
          simp only [if_true, beq_iff_eq, if_neg other]
          omega
      | false =>
          simp only [Bool.false_eq_true, if_false, beq_iff_eq]
          omega

/-- **No line of calls is as long as the bound that an inspection is given.** -/
theorem length_lt_height (begins : registry.lookup start.name = .ok (some start))
    (nested : Nested registry start path type) : path.length < registry.height := by
  have arrays := nested.countP_isArray_le begins
  have once : path.count universalBase ≤ 1 := List.nodup_iff_count_le_one.mp nested.distinct _
  have plain : (path.filter (!Name.isArray ·)).length ≤
      registry.ambient.size + registry.resources.size := by
    refine length_le_of_plain (nested.distinct.filter _) ?_
    intro name member
    obtain ⟨listed, plain⟩ := List.mem_filter.mp member
    obtain ⟨lower, looked, -⟩ := nested.exists_below begins name listed
    exact ⟨by simpa using plain, lower, looked⟩
  have parts := List.length_eq_length_filter_add Name.isArray (l := path)
  rw [List.countP_eq_length_filter] at arrays
  unfold height
  split at arrays <;> omega

end Nested

end Registry

end RuleVocabulary
