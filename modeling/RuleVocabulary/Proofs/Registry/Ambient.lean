import RuleVocabulary.Proofs.Registry.Growth

/-!
# Registries without resources

A registry that has registered nothing answers every lookup without a fault
(`exists_lookup_of_bare`), and lies below every registry with the same ambient types
(`below_of_bare`).

The registry that a loader starts with finds nothing but the ambient types and arrays
(`ambient_or_array_of_lookup`). Its types refer to nothing but ambient types, and their supertypes lead out
in less than three steps, so it is closed (`closed_ofSettings`).
-/

set_option autoImplicit false

namespace RuleVocabulary

namespace Registry

/-! ## Nothing registered -/

section Bare

variable {registry after : Registry}

theorem clear_of_bare (bare : registry.resources = ∅) : registry.clear = registry := by
  unfold clear
  rw [← bare]

theorem lookupPlain_of_bare (bare : registry.resources = ∅) (name : String) :
    registry.lookupPlain name = .ok registry.ambient[name]? := by
  unfold lookupPlain
  split
  · rename_i descriptor known
    rw [known]
  · rename_i unknown
    rw [bare, unknown]
    rfl

/-- Without resources no lookup fails. -/
theorem exists_lookup_of_bare (bare : registry.resources = ∅) (name : String) :
    ∃ found, registry.lookup name = .ok found := by
  induction name using lookup_induction with
  | plain name brackets =>
      exact ⟨registry.ambient[name]?, by rw [lookup_plain brackets, lookupPlain_of_bare bare]⟩
  | array name element brackets ih =>
      obtain ⟨found, known⟩ := ih
      cases found with
      | none => exact ⟨none, by rw [lookup_array brackets, known]⟩
      | some type => exact ⟨_, by rw [lookup_array brackets, known]⟩

theorem exists_firstKnown_of_bare (bare : registry.resources = ∅) (names : List String) :
    ∃ found, Scope.firstKnown registry names = .ok found := by
  induction names with
  | nil => exact ⟨none, rfl⟩
  | cons name names ih =>
      obtain ⟨found, known⟩ := exists_lookup_of_bare bare name
      cases found with
      | none =>
          obtain ⟨later, resolved⟩ := ih
          exact ⟨later, by simp only [Scope.firstKnown, known, resolved]⟩
      | some type => exact ⟨some type, by simp only [Scope.firstKnown, known]⟩

/-- Without resources no name fails to be resolved. -/
theorem exists_resolve_of_bare (bare : registry.resources = ∅) (scope : Scope) (name : String) :
    ∃ found, scope.resolve registry name = .ok found :=
  exists_firstKnown_of_bare bare _

/-- A registry without resources lies below each one with the same ambient types. -/
theorem below_of_bare (bare : registry.resources = ∅) (same : after.ambient = registry.ambient) :
    registry.Below after where
  lookup := by
    intro name type found
    induction name using lookup_induction generalizing type with
    | plain name brackets =>
        rw [lookup_plain brackets, lookupPlain_of_bare bare] at found
        have ambient : after.ambient[name]? = some type := by
          rw [same]
          exact Except.ok.inj found
        rw [lookup_plain brackets, lookupPlain, ambient]
    | array name element brackets ih =>
        rw [lookup_array brackets] at found ⊢
        split at found
        · rename_i inner known
          rw [ih inner known]
          exact found
        · cases found
        · cases found
  height := by
    simp only [height, same, bare, Std.ExtTreeMap.size_empty]
    omega

end Bare

/-! ## The ambient types -/

/-- Of several definitions of one name the first one stays. -/
theorem ambient_foldl_define (registry : Registry) (types : List Descriptor) (name : String) :
    (types.foldl define registry).ambient[name]? =
      registry.ambient[name]?.or (types.find? (·.name = name)) := by
  induction types generalizing registry with
  | nil => simp
  | cons type types ih =>
      rw [List.foldl_cons, ih]
      simp only [define, Std.ExtTreeMap.getElem?_insertIfNew]
      by_cases same : type.name = name
      · subst same
        cases known : registry.ambient[type.name]? with
        | none => simp [Std.ExtTreeMap.mem_iff_isSome_getElem?, known]
        | some kept => simp [Std.ExtTreeMap.mem_iff_isSome_getElem?, known]
      · have different : compare type.name name ≠ .eq := fun equal =>
          same (Std.LawfulEqCmp.eq_of_compare equal)
        simp [same, different]

theorem resources_foldl_define (registry : Registry) (types : List Descriptor) :
    (types.foldl define registry).resources = registry.resources := by
  induction types generalizing registry with
  | nil => rfl
  | cons type types ih => rw [List.foldl_cons, ih, define]

theorem resources_ofSettings (settings : Settings) : (ofSettings settings).resources = ∅ := by
  rw [ofSettings, resources_foldl_define, empty]

/-- A new registry knows by name what is in the table of ambient types. -/
theorem ambient_ofSettings (settings : Settings) (name : String) :
    (ofSettings settings).ambient[name]? = Ambient.types.find? (·.name = name) := by
  rw [ofSettings, ambient_foldl_define, empty]
  simp

/-- A new registry finds an ambient type under its name. -/
theorem lookup_ofSettings_of_find {settings : Settings} {name : String} {type : Descriptor}
    (plain : Name.element? name.toList = none)
    (listed : Ambient.types.find? (·.name = name) = some type) :
    (ofSettings settings).lookup name = .ok (some type) := by
  rw [lookup_plain plain, lookupPlain_of_bare (resources_ofSettings settings), ambient_ofSettings,
    listed]

/-- A new registry finds nothing but the ambient types and arrays. -/
theorem ambient_or_array_of_lookup {settings : Settings} {name : String} {type : Descriptor}
    (found : (ofSettings settings).lookup name = .ok (some type)) :
    type ∈ Ambient.types ∨ type = .bare name .array := by
  cases brackets : Name.element? name.toList with
  | none =>
      rw [lookup_plain brackets, lookupPlain_of_bare (resources_ofSettings settings),
        ambient_ofSettings] at found
      exact .inl (List.mem_of_find?_eq_some (Except.ok.inj found))
  | some element =>
      rw [lookup_array brackets] at found
      split at found
      · exact .inr (Option.some.inj (Except.ok.inj found)).symm
      · cases found
      · cases found

end Registry

/-! ## What the ambient types refer to -/

namespace Ambient

/-- Whether the supertypes of a type are ambient, and lead out in less than `rank` steps. -/
def leadsOut : (rank : Nat) → Descriptor → Bool
  | 0, _ => false
  | rank + 1, type => type.allSupertypes.all fun supertype =>
      (Name.element? supertype.toList).isNone &&
        (types.find? (·.name = supertype)).any (leadsOut rank)

theorem leadsOut_types : ∀ type ∈ types, leadsOut 3 type = true := by
  decide +kernel

theorem leadsOut_array (name : String) : leadsOut 3 (.bare name .array) = true := by
  have outOfBase : leadsOut 3 ⟨"", .interface, [universalBase], []⟩ = true := by decide +kernel
  simp only [leadsOut, List.all_eq_true] at outOfBase ⊢
  intro supertype member
  refine outOfBase supertype ?_
  have base : supertype = universalBase := by
    unfold Descriptor.allSupertypes at member
    split at member
    · simpa [Descriptor.bare] using member
    · simp [Descriptor.bare] at member
  rw [base]
  exact List.mem_cons_self ..

theorem fields_types : ∀ type ∈ types, ∀ field ∈ type.fields,
    Name.element? field.typeName.toList = none ∧
      (types.find? (·.name = field.typeName)).isSome := by
  decide +kernel

end Ambient

namespace Registry

theorem grounded_of_leadsOut (settings : Settings) {rank : Nat} {type : Descriptor}
    (out : Ambient.leadsOut rank type = true) : (ofSettings settings).Grounded rank type := by
  induction rank generalizing type with
  | zero => cases out
  | succ rank ih =>
      intro supertype member
      simp only [Ambient.leadsOut, List.all_eq_true, Bool.and_eq_true, Option.isNone_iff_eq_none,
        Option.any_eq_true] at out
      obtain ⟨plain, parent, listed, above⟩ := out supertype member
      exact ⟨parent, lookup_ofSettings_of_find plain listed, ih above⟩

/-- **The registry that a loader starts with knows all that its types refer to.** -/
theorem closed_ofSettings (settings : Settings) : (ofSettings settings).Closed where
  grounded := by
    intro name type found
    have out : Ambient.leadsOut 3 type = true := by
      rcases ambient_or_array_of_lookup found with listed | rfl
      · exact Ambient.leadsOut_types type listed
      · exact Ambient.leadsOut_array name
    exact (grounded_of_leadsOut settings out).mono (Nat.le_add_left ..)
  fields := by
    intro name type found field member
    rcases ambient_or_array_of_lookup found with listed | rfl
    · obtain ⟨plain, known⟩ := Ambient.fields_types type listed field member
      obtain ⟨target, same⟩ := Option.isSome_iff_exists.mp known
      exact ⟨target, lookup_ofSettings_of_find plain same⟩
    · cases member

end Registry

end RuleVocabulary
