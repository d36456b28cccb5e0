import Mathlib.Data.List.Flatten
import RuleVocabulary.Proofs.Inspection.Supertypes

/-!
# Walks that remember nothing

An inspection remembers the types that it is done with and does not visit them again. A walk that
remembers only the names on the way visits a type as often as it comes to it. Either it passes
(`Passes`) and has met a list of types, or it stops at its first fault (`Stops`); it cannot do
both, nor either in two ways (`walks_unique`).

Where a walk passes on one way, it passes on each way that meets none of the types it meets
(`Passes.along`). Main statement: a walk passes exactly above a type all of whose supertypes are
known and none of which leads back to itself (`passes_iff`).
-/

set_option autoImplicit false

namespace RuleVocabulary.Inspection

variable {registry : Registry}

/-! ## Walks -/

/-- A walk through the given supertypes of a type passes. It meets the listed types in order, as
often as it comes to them. The path holds the names on the way, that of the type among them. -/
inductive Passes (registry : Registry) :
    List String → Descriptor → List String → List Descriptor → Prop where
  | done {path : List String} {type : Descriptor} : Passes registry path type [] []
  | next {path others : List String} {type found : Descriptor} {supertype : String}
      {above beside : List Descriptor}
      (known : parent registry type supertype = .ok found) (new : found.name ∉ path)
      (up : Passes registry (found.name :: path) found found.allSupertypes above)
      (on : Passes registry path type others beside) :
      Passes registry path type (supertype :: others) (found :: above ++ beside)

/-- A walk through the given supertypes of a type stops: at one that is not known, at one that is
on the way already, or above one. -/
inductive Stops (registry : Registry) :
    List String → Descriptor → List String → Fault → Prop where
  | unknown {path others : List String} {type : Descriptor} {supertype : String} {fault : Fault}
      (missing : parent registry type supertype = .error fault) :
      Stops registry path type (supertype :: others) fault
  | returns {path others : List String} {type found : Descriptor} {supertype : String}
      (known : parent registry type supertype = .ok found) (old : found.name ∈ path) :
      Stops registry path type (supertype :: others) (cyclic found)
  | up {path others : List String} {type found : Descriptor} {supertype : String} {fault : Fault}
      (known : parent registry type supertype = .ok found) (new : found.name ∉ path)
      (above : Stops registry (found.name :: path) found found.allSupertypes fault) :
      Stops registry path type (supertype :: others) fault
  | on {path others : List String} {type found : Descriptor} {supertype : String} {fault : Fault}
      {above : List Descriptor}
      (known : parent registry type supertype = .ok found) (new : found.name ∉ path)
      (up : Passes registry (found.name :: path) found found.allSupertypes above)
      (beside : Stops registry path type others fault) :
      Stops registry path type (supertype :: others) fault

/-- What a walk from a type comes to: the types met, the type itself first, or a fault. -/
inductive Walks (registry : Registry) (type : Descriptor) : Except Fault (List Descriptor) → Prop
  | passes {above : List Descriptor}
      (up : Passes registry [type.name] type type.allSupertypes above) :
      Walks registry type (.ok (type :: above))
  | stops {fault : Fault} (up : Stops registry [type.name] type type.allSupertypes fault) :
      Walks registry type (.error fault)

theorem parent_eq_ok_iff {type found : Descriptor} {supertype : String} :
    parent registry type supertype = .ok found ↔
      registry.lookup supertype = .ok (some found) := by
  unfold parent
  constructor
  · intro known
    split at known
    · cases known
    · cases known
    · rename_i other looked
      cases known
      exact looked
  · intro looked
    rw [looked]

theorem inherits_of_parent {type found : Descriptor} {supertype : String}
    (listed : supertype ∈ type.allSupertypes)
    (known : parent registry type supertype = .ok found) : registry.Inherits type found :=
  ⟨supertype, listed, parent_eq_ok_iff.mp known⟩

/-! ## One outcome -/

theorem Passes.unique {path supertypes : List String} {type : Descriptor}
    {first second : List Descriptor} (passes : Passes registry path type supertypes first)
    (again : Passes registry path type supertypes second) : first = second := by
  induction passes generalizing second with
  | done =>
      cases again
      rfl
  | next known _ _ _ ihUp ihOn =>
      cases again with
      | next known' _ up on =>
          rw [known] at known'
          cases known'
          rw [ihUp up, ihOn on]

theorem Passes.not_stops {path supertypes : List String} {type : Descriptor}
    {visits : List Descriptor} {fault : Fault}
    (passes : Passes registry path type supertypes visits) :
    ¬ Stops registry path type supertypes fault := by
  induction passes with
  | done =>
      intro stops
      cases stops
  | next known new _ _ ihUp ihOn =>
      intro stops
      cases stops with
      | unknown missing =>
          rw [known] at missing
          cases missing
      | returns known' old =>
          rw [known] at known'
          cases known'
          exact new old
      | up known' _ above =>
          rw [known] at known'
          cases known'
          exact ihUp above
      | on _ _ _ beside => exact ihOn beside

theorem Stops.unique {path supertypes : List String} {type : Descriptor} {first second : Fault}
    (stops : Stops registry path type supertypes first)
    (again : Stops registry path type supertypes second) : first = second := by
  induction stops generalizing second with
  | unknown missing =>
      cases again with
      | unknown missing' =>
          rw [missing] at missing'
          cases missing'
          rfl
      | returns known _ | up known _ _ | on known _ _ _ =>
          rw [known] at missing
          cases missing
  | returns known old =>
      cases again with
      | unknown missing =>
          rw [known] at missing
          cases missing
      | returns known' _ =>
          rw [known] at known'
          cases known'
          rfl
      | up known' new _ | on known' new _ _ =>
          rw [known] at known'
          cases known'
          exact absurd old new
  | up known new above ih =>
      cases again with
      | unknown missing =>
          rw [known] at missing
          cases missing
      | returns known' old =>
          rw [known] at known'
          cases known'
          exact absurd old new
      | up known' _ above' =>
          rw [known] at known'
          cases known'
          exact ih above'
      | on known' _ up _ =>
          rw [known] at known'
          cases known'
          exact absurd above up.not_stops
  | on known new up _ ih =>
      cases again with
      | unknown missing =>
          rw [known] at missing
          cases missing
      | returns known' old =>
          rw [known] at known'
          cases known'
          exact absurd old new
      | up known' _ above' =>
          rw [known] at known'
          cases known'
          exact absurd above' up.not_stops
      | on _ _ _ beside => exact ih beside

/-- A walk comes to one thing only. -/
theorem walks_unique {type : Descriptor} {outcome : Except Fault (List Descriptor)}
    (walks : Walks registry type outcome) (other : Except Fault (List Descriptor)) :
    Walks registry type other ↔ other = outcome := by
  constructor
  · intro again
    cases walks with
    | passes up =>
        cases again with
        | passes up' => rw [up.unique up']
        | stops up' => exact absurd up' up.not_stops
    | stops up =>
        cases again with
        | passes up' => exact absurd up up'.not_stops
        | stops up' => rw [up.unique up']
  · rintro rfl
    exact walks

/-! ## Walks that pass -/

/-- A walk meets nothing that is on the way to it. -/
theorem Passes.apart {path supertypes : List String} {type : Descriptor}
    {visits : List Descriptor} (passes : Passes registry path type supertypes visits) :
    ∀ visit ∈ visits, visit.name ∉ path := by
  induction passes with
  | done => simp
  | next known new _ _ ihUp ihOn =>
      intro visit member
      rcases List.mem_append.mp member with first | beside
      · rcases List.mem_cons.mp first with rfl | above
        · exact new
        · exact fun old => ihUp visit above (List.mem_cons_of_mem _ old)
      · exact ihOn visit beside

/-- A walk meets only types that are looked up. -/
theorem Passes.known {path supertypes : List String} {type : Descriptor}
    {visits : List Descriptor} (passes : Passes registry path type supertypes visits) :
    ∀ visit ∈ visits, registry.lookup visit.name = .ok (some visit) := by
  induction passes with
  | done => simp
  | next known _ _ _ ihUp ihOn =>
      intro visit member
      rcases List.mem_append.mp member with first | beside
      · rcases List.mem_cons.mp first with rfl | above
        · have looked := parent_eq_ok_iff.mp known
          rwa [Registry.name_of_lookup looked]
        · exact ihUp visit above
      · exact ihOn visit beside

/-- **A walk does not depend on the way to it**, as long as it meets nothing that is on it. -/
theorem Passes.along {path supertypes : List String} {type : Descriptor}
    {visits : List Descriptor} (passes : Passes registry path type supertypes visits)
    {way : List String} (apart : ∀ visit ∈ visits, visit.name ∉ way) :
    Passes registry way type supertypes visits := by
  induction passes generalizing way with
  | done => exact .done
  | @next path others type found supertype above beside known _ up _ ihUp ihOn =>
      have new : found.name ∉ way := apart found (by simp)
      refine .next known new (ihUp ?_) (ihOn ?_)
      · intro visit member
        have old := up.apart visit member
        have met := apart visit (by simp [member])
        simp only [List.mem_cons, not_or] at old ⊢
        exact ⟨old.1, met⟩
      · intro visit member
        exact apart visit (by simp [member])

/-- What the supertypes are found to be is met. -/
theorem Passes.exists_found {path supertypes : List String} {type : Descriptor}
    {visits : List Descriptor} (passes : Passes registry path type supertypes visits) :
    ∀ supertype ∈ supertypes, ∃ found ∈ visits, registry.lookup supertype = .ok (some found) := by
  induction passes with
  | done => simp
  | next known _ _ _ _ ihOn =>
      intro supertype member
      rcases List.mem_cons.mp member with rfl | other
      · exact ⟨_, by simp, parent_eq_ok_iff.mp known⟩
      · obtain ⟨found, met, looked⟩ := ihOn supertype other
        exact ⟨found, by simp [met], looked⟩

/-- Behind each type that a walk meets there is a walk from that type, which meets nothing new. -/
theorem Passes.exists_up {path supertypes : List String} {type : Descriptor}
    {visits : List Descriptor} (passes : Passes registry path type supertypes visits) :
    ∀ visit ∈ visits, ∃ way above,
      Passes registry (visit.name :: way) visit visit.allSupertypes above ∧ above ⊆ visits := by
  induction passes with
  | done => simp
  | @next path others type found supertype above beside known _ up _ ihUp ihOn =>
      intro visit member
      rcases List.mem_append.mp member with first | later
      · rcases List.mem_cons.mp first with rfl | higher
        · exact ⟨path, above, up, fun other met => by simp [met]⟩
        · obtain ⟨way, inner, walk, part⟩ := ihUp visit higher
          exact ⟨way, inner, walk, fun other met => by simp [part met]⟩
      · obtain ⟨way, inner, walk, part⟩ := ihOn visit later
        exact ⟨way, inner, walk, fun other met => by simp [part met]⟩

theorem Passes.mem_of_inherits {path : List String} {type parent : Descriptor}
    {visits : List Descriptor} (passes : Passes registry path type type.allSupertypes visits)
    (inherits : registry.Inherits type parent) : parent ∈ visits := by
  obtain ⟨supertype, member, looked⟩ := inherits
  obtain ⟨found, met, looked'⟩ := passes.exists_found supertype member
  rw [looked'] at looked
  cases looked
  exact met

/-- A walk that passes meets all that is above. -/
theorem Passes.mem_of_strictlyAbove {path : List String} {type other : Descriptor}
    {visits : List Descriptor} (passes : Passes registry path type type.allSupertypes visits)
    (above : registry.StrictlyAbove type other) : other ∈ visits := by
  induction above with
  | single inherits => exact passes.mem_of_inherits inherits
  | tail _ inherits ih =>
      obtain ⟨way, inner, walk, part⟩ := passes.exists_up _ ih
      exact part (walk.mem_of_inherits inherits)

/-- Where a walk from a type passes, so do walks from all types above. -/
theorem Passes.exists_passes {path : List String} {type other : Descriptor}
    {visits : List Descriptor}
    (passes : Passes registry (type.name :: path) type type.allSupertypes visits)
    (above : registry.Above type other) :
    ∃ way inner, Passes registry (other.name :: way) other other.allSupertypes inner := by
  rcases Relation.reflTransGen_iff_eq_or_transGen.mp above with rfl | strictly
  · exact ⟨path, visits, passes⟩
  · obtain ⟨way, inner, walk, -⟩ := passes.exists_up other (passes.mem_of_strictlyAbove strictly)
    exact ⟨way, inner, walk⟩

theorem Passes.complete {path : List String} {type : Descriptor} {visits : List Descriptor}
    (passes : Passes registry (type.name :: path) type type.allSupertypes visits) :
    registry.Complete type := by
  intro other above supertype member
  obtain ⟨way, inner, walk⟩ := passes.exists_passes above
  obtain ⟨found, -, looked⟩ := walk.exists_found supertype member
  exact ⟨found, looked⟩

theorem Passes.not_strictlyAbove_self {path : List String} {type : Descriptor}
    {visits : List Descriptor}
    (passes : Passes registry (type.name :: path) type type.allSupertypes visits) :
    ¬ registry.StrictlyAbove type type := by
  intro returns
  exact passes.apart type (passes.mem_of_strictlyAbove returns) (List.mem_cons_self ..)

theorem Passes.acyclic {path : List String} {type : Descriptor} {visits : List Descriptor}
    (passes : Passes registry (type.name :: path) type type.allSupertypes visits) :
    registry.Acyclic type := by
  intro other above
  obtain ⟨way, inner, walk⟩ := passes.exists_passes above
  exact walk.not_strictlyAbove_self

/-! ## Walks that stop -/

/-- **A walk does not stop above a complete and acyclic type.** What is on the way stands below the
type, so a name that returns closes a cycle. -/
theorem Stops.elim {way supertypes : List String} {type : Descriptor} {fault : Fault}
    (stops : Stops registry way type supertypes fault)
    (below : ∀ name ∈ way, ∃ lower, registry.lookup name = .ok (some lower) ∧
      registry.Above lower type)
    (listed : supertypes ⊆ type.allSupertypes) (complete : registry.Complete type)
    (acyclic : registry.Acyclic type) : False := by
  induction stops with
  | unknown missing =>
      obtain ⟨found, looked⟩ := complete _ .refl _ (listed (List.mem_cons_self ..))
      rw [parent_eq_ok_iff.mpr looked] at missing
      cases missing
  | @returns way others type found supertype known old =>
      obtain ⟨lower, looked, above⟩ := below _ old
      have inherits := inherits_of_parent (listed (List.mem_cons_self ..)) known
      rw [inherits.known] at looked
      cases looked
      exact acyclic type .refl (.head' inherits above)
  | @up way others type found supertype fault known new above ih =>
      have inherits := inherits_of_parent (listed (List.mem_cons_self ..)) known
      refine ih ?_ (List.Subset.refl _) (complete.of_inherits inherits)
        (acyclic.of_inherits inherits)
      intro name member
      rcases List.mem_cons.mp member with rfl | earlier
      · exact ⟨found, inherits.known, .refl⟩
      · obtain ⟨lower, looked, higher⟩ := below name earlier
        exact ⟨lower, looked, higher.tail inherits⟩
  | on known new up beside ih =>
      exact ih below (List.subset_of_cons_subset listed) complete acyclic

/-- **A walk passes exactly above a complete and acyclic type.** -/
theorem passes_iff {type : Descriptor} {outcome : Except Fault (List Descriptor)}
    (known : registry.lookup type.name = .ok (some type)) (walks : Walks registry type outcome) :
    (∃ visits, outcome = .ok visits) ↔ registry.Complete type ∧ registry.Acyclic type := by
  cases walks with
  | passes up => exact ⟨fun _ => ⟨up.complete, up.acyclic⟩, fun _ => ⟨_, rfl⟩⟩
  | stops up =>
      constructor
      · rintro ⟨visits, same⟩
        cases same
      · rintro ⟨complete, acyclic⟩
        refine (up.elim ?_ (List.Subset.refl _) complete acyclic).elim
        intro name member
        obtain rfl := List.mem_singleton.mp member
        exact ⟨type, known, .refl⟩

end RuleVocabulary.Inspection
