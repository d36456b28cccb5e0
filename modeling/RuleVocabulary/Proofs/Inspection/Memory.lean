import RuleVocabulary.Proofs.Inspection.Walk
import RuleVocabulary.Proofs.Registry.Changes

/-!
# What an inspection remembers

What an inspection is done with stays apart from the names on the way, has been passed by a walk,
and has all its declarations among those found (`Memory`). The names on the way never come back to
a type that is done with, because all that is above such a type is done with too. Each call of an
inspection keeps this and does what a walk does (`callWalks_survey`).

Main statement: an inspection ends, and lists the first declaration of each name that a walk meets,
or stops where a walk stops (`fields_eq_walk`).
-/

set_option autoImplicit false

namespace RuleVocabulary.Inspection

variable {registry : Registry}

/-! ## Declarations -/

/-- Whether a name is among those of some declarations. -/
def Declared (declarations : List FieldDeclaration) (name : String) : Prop :=
  ∃ field ∈ declarations, field.name = name

theorem declared_addDeclaration_iff {declarations : List FieldDeclaration}
    {field : FieldDeclaration} {name : String} :
    Declared (addDeclaration declarations field) name ↔
      Declared declarations name ∨ field.name = name := by
  unfold addDeclaration
  split
  · rename_i old
    constructor
    · exact .inl
    · rintro (earlier | rfl)
      · exact earlier
      · obtain ⟨other, member, same⟩ := List.any_eq_true.mp old
        exact ⟨other, member, of_decide_eq_true same⟩
  · simp [Declared, or_and_right, exists_or]

theorem declared_foldl_iff {own declarations : List FieldDeclaration} {name : String} :
    Declared (own.foldl addDeclaration declarations) name ↔
      Declared declarations name ∨ Declared own name := by
  induction own generalizing declarations with
  | nil => simp [Declared]
  | cons field own ih =>
      rw [List.foldl_cons, ih, declared_addDeclaration_iff, or_assoc]
      simp [Declared]

/-- Declarations of names that are declared already add nothing. -/
theorem foldl_addDeclaration_of_declared {own declarations : List FieldDeclaration}
    (old : ∀ field ∈ own, Declared declarations field.name) :
    own.foldl addDeclaration declarations = declarations := by
  induction own with
  | nil => rfl
  | cons field own ih =>
      have same : addDeclaration declarations field = declarations := by
        obtain ⟨other, member, named⟩ := old field (List.mem_cons_self ..)
        exact if_pos (List.any_eq_true.mpr ⟨other, member, decide_eq_true named⟩)
      rw [List.foldl_cons, same]
      exact ih fun other member => old other (List.mem_cons_of_mem _ member)

/-- The first declaration of each name. -/
def firstDeclarations (declarations : List FieldDeclaration) : List FieldDeclaration :=
  declarations.eraseDupsBy fun field other => field.name == other.name

/-- Adding declarations one by one keeps the first one of each name. -/
theorem foldl_addDeclaration (own declarations : List FieldDeclaration) :
    own.foldl addDeclaration declarations =
      declarations ++ firstDeclarations
        (own.filter fun field => !declarations.any (·.name = field.name)) := by
  induction own generalizing declarations with
  | nil => simp [firstDeclarations]
  | cons field own ih =>
      rw [List.foldl_cons, ih]
      by_cases old : declarations.any (·.name = field.name) = true
      · rw [addDeclaration, if_pos old, List.filter_cons_of_neg (by simp [old])]
      · rw [addDeclaration, if_neg old, List.filter_cons_of_pos (by simpa using old),
          firstDeclarations, firstDeclarations, List.eraseDupsBy_cons, List.filter_filter,
          List.append_assoc, List.singleton_append]
        congr 3
        refine List.filter_congr fun other _ => ?_
        rcases eq_or_ne field.name other.name with same | different
        · simp [same]
        · simp [different, different.symm]

theorem foldl_addDeclaration_nil (own : List FieldDeclaration) :
    own.foldl addDeclaration [] = firstDeclarations own := by
  rw [foldl_addDeclaration, List.nil_append]
  congr 1
  exact List.filter_eq_self.mpr fun _ _ => rfl

/-! ## What an inspection remembers -/

/-- What holds of the types that an inspection is done with when it comes to a call: none of them
is on the way, a walk from each of them passes and meets only such types, and all that they declare
has been found. -/
structure Memory (registry : Registry) (path : List String) (state : Survey) : Prop where
  apart : ∀ name ∈ state.finished, name ∉ path
  passed : ∀ name ∈ state.finished, ∀ type, registry.lookup name = .ok (some type) →
    ∃ way above, Passes registry (type.name :: way) type type.allSupertypes above ∧
      ∀ visit ∈ above, visit.name ∈ state.finished
  declared : ∀ name ∈ state.finished, ∀ type, registry.lookup name = .ok (some type) →
    ∀ field ∈ type.fields, Declared state.declarations field.name

/-- What an inspection has done that met the given types: it has found their declarations, and is
done with all of them. -/
structure Follows (registry : Registry) (path : List String) (state : Survey)
    (visits : List Descriptor) (reached : Survey) : Prop where
  found : reached.declarations =
    (visits.flatMap Descriptor.fields).foldl addDeclaration state.declarations
  kept : state.finished ⊆ reached.finished
  finished : ∀ visit ∈ visits, visit.name ∈ reached.finished
  memory : Memory registry path reached

variable {start type : Descriptor} {path : List String} {state : Survey}

theorem memory_nil (path : List String) (declarations : List FieldDeclaration) :
    Memory registry path ⟨[], declarations⟩ where
  apart := by simp
  passed := by simp
  declared := by simp

theorem Follows.nil (memory : Memory registry path state) :
    Follows registry path state [] state where
  found := rfl
  kept := List.Subset.refl _
  finished := by simp
  memory := memory

theorem Follows.append {first second : List Descriptor} {middle reached : Survey}
    (earlier : Follows registry path state first middle)
    (later : Follows registry path middle second reached) :
    Follows registry path state (first ++ second) reached where
  found := by
    rw [later.found, earlier.found, List.flatMap_append, List.foldl_append]
  kept := List.Subset.trans earlier.kept later.kept
  finished := by
    intro visit member
    rcases List.mem_append.mp member with before | behind
    · exact later.kept (earlier.finished visit before)
    · exact later.finished visit behind
  memory := later.memory

/-- A type that is not done with is entered. -/
theorem Memory.enter (memory : Memory registry path state)
    (unfinished : type.name ∉ state.finished) :
    Memory registry (type.name :: path) (surveyOwn type state) where
  apart := by
    intro name done old
    rcases List.mem_cons.mp old with rfl | earlier
    · exact unfinished done
    · exact memory.apart name done earlier
  passed := memory.passed
  declared := by
    intro name done other looked field member
    exact declared_foldl_iff.mpr (.inl (memory.declared name done other looked field member))

/-- A type whose supertypes have all been passed is done with. -/
theorem Follows.leave {above : List Descriptor} {reached : Survey}
    (known : registry.lookup type.name = .ok (some type)) (new : type.name ∉ path)
    (passes : Passes registry (type.name :: path) type type.allSupertypes above)
    (follows : Follows registry (type.name :: path) (surveyOwn type state) above reached) :
    Follows registry path state (type :: above)
      { reached with finished := type.name :: reached.finished } where
  found := by
    rw [List.flatMap_cons, List.foldl_append]
    exact follows.found
  kept := List.subset_cons_of_subset _ follows.kept
  finished := by
    intro visit member
    rcases List.mem_cons.mp member with rfl | met
    · exact List.mem_cons_self ..
    · exact List.mem_cons_of_mem _ (follows.finished visit met)
  memory := by
    refine ⟨?_, ?_, ?_⟩
    · intro name done old
      rcases List.mem_cons.mp done with rfl | earlier
      · exact new old
      · exact follows.memory.apart name earlier (List.mem_cons_of_mem _ old)
    · intro name done other looked
      rcases List.mem_cons.mp done with rfl | earlier
      · rw [known] at looked
        cases looked
        refine ⟨path, above, passes, ?_⟩
        intro visit met
        exact List.mem_cons_of_mem _ (follows.finished visit met)
      · obtain ⟨way, higher, walk, within⟩ := follows.memory.passed name earlier other looked
        exact ⟨way, higher, walk, fun visit met => List.mem_cons_of_mem _ (within visit met)⟩
    · intro name done other looked field member
      rcases List.mem_cons.mp done with rfl | earlier
      · rw [known] at looked
        cases looked
        show Declared reached.declarations field.name
        rw [follows.found, declared_foldl_iff]
        exact .inl (declared_foldl_iff.mpr (.inr ⟨field, member, rfl⟩))
      · exact follows.memory.declared name earlier other looked field member

/-- A type that is done with adds nothing, and a walk from it passes. -/
theorem Memory.exists_follows (memory : Memory registry path state)
    (known : registry.lookup type.name = .ok (some type)) (new : type.name ∉ path)
    (finished : type.name ∈ state.finished) :
    ∃ above, Passes registry (type.name :: path) type type.allSupertypes above ∧
      Follows registry path state (type :: above) state := by
  obtain ⟨way, above, passes, within⟩ := memory.passed type.name finished type known
  have done : ∀ visit ∈ type :: above, visit.name ∈ state.finished := by
    intro visit member
    rcases List.mem_cons.mp member with rfl | met
    · exact finished
    · exact within visit met
  have looked : ∀ visit ∈ type :: above, registry.lookup visit.name = .ok (some visit) := by
    intro visit member
    rcases List.mem_cons.mp member with rfl | met
    · exact known
    · exact passes.known visit met
  refine ⟨above, passes.along ?_, ?_, List.Subset.refl _, done, memory⟩
  · intro visit met old
    rcases List.mem_cons.mp old with same | earlier
    · exact passes.apart visit met (same ▸ List.mem_cons_self ..)
    · exact memory.apart visit.name (within visit met) earlier
  · refine (foldl_addDeclaration_of_declared ?_).symm
    intro field member
    obtain ⟨visit, met, own⟩ := List.mem_flatMap.mp member
    exact memory.declared visit.name (done visit met) visit (looked visit met) field own

/-! ## An inspection walks -/

/-- A call about a type does what a walk from that type does. -/
inductive CallWalks (registry : Registry) (path : List String) (type : Descriptor)
    (state : Survey) : Except Fault Survey → Prop where
  | passes {above : List Descriptor} {reached : Survey}
      (up : Passes registry (type.name :: path) type type.allSupertypes above)
      (follows : Follows registry path state (type :: above) reached) :
      CallWalks registry path type state (.ok reached)
  | stops {fault : Fault} (up : Stops registry (type.name :: path) type type.allSupertypes fault) :
      CallWalks registry path type state (.error fault)

/-- Going through supertypes of a type does what a walk through them does. -/
inductive SupertypesWalk (registry : Registry) (path : List String) (type : Descriptor)
    (supertypes : List String) (state : Survey) : Except Fault Survey → Prop where
  | passes {visits : List Descriptor} {reached : Survey}
      (on : Passes registry path type supertypes visits)
      (follows : Follows registry path state visits reached) :
      SupertypesWalk registry path type supertypes state (.ok reached)
  | stops {fault : Fault} (on : Stops registry path type supertypes fault) :
      SupertypesWalk registry path type supertypes state (.error fault)

/-- A call about a type that is on the way stops there, as long as the bound is not reached. -/
theorem survey_of_old {fuel : Nat} (enough : 0 < fuel) (old : type.name ∈ path) :
    survey registry fuel path type state = .error (cyclic type) := by
  obtain ⟨fuel, rfl⟩ := Nat.exists_eq_add_of_lt enough
  rw [Nat.zero_add, survey_succ, if_pos old]

/-- If the calls about the supertypes of a type do what walks do, so does going through them. -/
theorem supertypesWalk_of_calls {fuel : Nat}
    (enough : ∀ parent, registry.Inherits type parent → 0 < fuel)
    (calls : ∀ parent state, registry.Inherits type parent → parent.name ∉ type.name :: path →
      Memory registry (type.name :: path) state →
      CallWalks registry (type.name :: path) parent state
        (survey registry fuel (type.name :: path) parent state))
    {supertypes : List String} (listed : supertypes ⊆ type.allSupertypes)
    (memory : Memory registry (type.name :: path) state) :
    SupertypesWalk registry (type.name :: path) type supertypes state
      (supertypes.foldlM (surveyParent registry fuel path type) state) := by
  induction supertypes generalizing state with
  | nil => exact .passes .done (.nil memory)
  | cons supertype others ih =>
      rw [List.foldlM_cons]
      cases above : parent registry type supertype with
      | error fault =>
          rw [surveyParent, above]
          exact .stops (.unknown above)
      | ok found =>
          have inherits := inherits_of_parent (listed (List.mem_cons_self ..)) above
          have first : surveyParent registry fuel path type state supertype =
              survey registry fuel (type.name :: path) found state := by
            rw [surveyParent, above]
          rw [first]
          by_cases old : found.name ∈ type.name :: path
          · rw [survey_of_old (enough found inherits) old]
            exact .stops (.returns above old)
          · have called := calls found state inherits old memory
            generalize survey registry fuel (type.name :: path) found state = result at called
            cases called with
            | stops up => exact .stops (.up above old up)
            | @passes higher reached up follows =>
                have rest := ih (List.subset_of_cons_subset listed) follows.memory
                show SupertypesWalk _ _ _ _ _
                  (others.foldlM (surveyParent registry fuel path type) reached)
                generalize others.foldlM (surveyParent registry fuel path type) reached = last
                  at rest
                cases rest with
                | stops on => exact .stops (.on above old up on)
                | passes on later => exact .passes (.next above old up on) (follows.append later)

/-- **Each call of an inspection does what a walk does.** Its bound is never reached. -/
theorem callWalks_survey (begins : registry.lookup start.name = .ok (some start)) {fuel : Nat}
    (entered : Registry.Nested registry start path type) (new : type.name ∉ path)
    (enough : registry.height ≤ fuel + path.length) (memory : Memory registry path state) :
    CallWalks registry path type state (survey registry fuel path type state) := by
  induction fuel generalizing path type state with
  | zero =>
      have short := entered.length_lt_height begins
      omega
  | succ fuel ih =>
      have known := entered.known begins
      rw [survey_succ, if_neg new]
      by_cases finished : type.name ∈ state.finished
      · rw [if_pos finished]
        obtain ⟨above, passes, follows⟩ := memory.exists_follows known new finished
        exact .passes passes follows
      · rw [if_neg finished]
        have deeper : ∀ parent, registry.Inherits type parent →
            Registry.Nested registry start (type.name :: path) parent :=
          fun parent inherits => entered.step new inherits
        have walked : SupertypesWalk registry (type.name :: path) type type.allSupertypes
            (surveyOwn type state)
            (type.allSupertypes.foldlM (surveyParent registry fuel path type)
              (surveyOwn type state)) := by
          refine supertypesWalk_of_calls ?_ ?_ (List.Subset.refl _) (memory.enter finished)
          · intro parent inherits
            have short := (deeper parent inherits).length_lt_height begins
            rw [List.length_cons] at short
            omega
          · intro parent state inherits unvisited memory
            refine ih (deeper parent inherits) unvisited ?_ memory
            rw [List.length_cons]
            omega
        generalize type.allSupertypes.foldlM (surveyParent registry fuel path type)
          (surveyOwn type state) = result at walked
        cases walked with
        | stops on => exact .stops on
        | passes on follows => exact .passes on (follows.leave known new on)

/-! ## The fields of a type -/

/-- What an inspection shows of the types that a walk meets: the first declaration of each name
that is not ignored, with the type that it is found to have. -/
def shown (registry : Registry) (settings : Settings) (visits : List Descriptor) :
    List InspectedField :=
  ((firstDeclarations (visits.flatMap Descriptor.fields)).filter
    (!settings.isIgnored ·.name)).map fun field => ⟨field.name, declaredType? registry field⟩

/-- What a walk from a type comes to decides its fields. -/
theorem exists_walks_fields (settings : Settings)
    (known : registry.lookup type.name = .ok (some type)) :
    ∃ outcome, Walks registry type outcome ∧
      fields registry settings type = outcome.map (shown registry settings) := by
  have called : CallWalks registry [] type ⟨[], []⟩
      (survey registry registry.height [] type ⟨[], []⟩) :=
    callWalks_survey known .start (List.not_mem_nil) (Nat.le_refl _) (memory_nil [] [])
  unfold fields
  generalize survey registry registry.height [] type ⟨[], []⟩ = result at called
  cases called with
  | stops up => exact ⟨_, .stops up, rfl⟩
  | passes up follows =>
      refine ⟨_, .passes up, ?_⟩
      have found := follows.found
      rw [foldl_addDeclaration_nil] at found
      simp only [Except.map, shown, found]

/-- More than the bound changes nothing. -/
theorem survey_of_height_le (begins : registry.lookup start.name = .ok (some start))
    {fuel more : Nat} (entered : Registry.Nested registry start path type)
    (enough : registry.height ≤ fuel + path.length)
    (enoughMore : registry.height ≤ more + path.length) :
    survey registry more path type state = survey registry fuel path type state := by
  induction fuel generalizing path type state more with
  | zero =>
      have short := entered.length_lt_height begins
      omega
  | succ fuel ih =>
      have short := entered.length_lt_height begins
      obtain ⟨more, rfl⟩ := Nat.exists_eq_add_of_lt (show 0 < more by omega)
      rw [Nat.zero_add, survey_succ, survey_succ]
      by_cases old : type.name ∈ path
      · rw [if_pos old, if_pos old]
      · have inherited : ∀ state, type.allSupertypes.foldlM
              (surveyParent registry more path type) state =
            type.allSupertypes.foldlM (surveyParent registry fuel path type) state := by
          refine Registry.foldlM_ext fun supertype member state => ?_
          unfold surveyParent
          cases above : parent registry type supertype with
          | error fault => rfl
          | ok found =>
              have inherits := inherits_of_parent member above
              refine ih (entered.step old inherits) ?_ ?_ <;> rw [List.length_cons] <;> omega
        rw [inherited]

/-- **An inspection lists what a walk meets.** Its calls never come to the bound on their depth,
so that a greater bound changes nothing. It lists fields exactly if all supertypes above the type
are known and none of them leads back to itself. Then it shows the first declaration of each name
that the walk meets, and otherwise it stops at the fault at which the walk stops. -/
theorem fields_eq_walk (registry : Registry) (settings : Settings) (name : String)
    (type : Descriptor) (looked : registry.lookup name = .ok (some type)) :
    (∀ path inner, Registry.Nested registry type path inner → path.length < registry.height) ∧
    (∀ bound, registry.height ≤ bound → survey registry bound [] type ⟨[], []⟩ =
      survey registry registry.height [] type ⟨[], []⟩) ∧
    ((∃ listed, fields registry settings type = .ok listed) ↔
      registry.Complete type ∧ registry.Acyclic type) ∧
    ∃ outcome, (∀ other, Walks registry type other ↔ other = outcome) ∧
      fields registry settings type = outcome.map (shown registry settings) := by
  have known : registry.lookup type.name = .ok (some type) := by
    rwa [Registry.name_of_lookup looked]
  obtain ⟨outcome, walks, same⟩ := exists_walks_fields settings known
  refine ⟨?_, ?_, ?_, outcome, walks_unique walks, same⟩
  · intro path inner nested
    exact nested.length_lt_height known
  · intro bound enough
    exact survey_of_height_le known .start (Nat.le_refl _) enough
  · rw [← passes_iff known walks, same]
    cases outcome with
    | error fault => simp [Except.map]
    | ok visits => simp [Except.map]

/-! ## A type above which two ways meet -/

namespace Fork

/-- A class with two supertypes that share one. -/
def both : Descriptor := ⟨"a.Both", .classType, ["a.Left", "a.Right"], []⟩

def left : Descriptor := ⟨"a.Left", .interface, ["a.Top"], []⟩

/-- Declares the field of the shared supertype anew. -/
def right : Descriptor := ⟨"a.Right", .interface, ["a.Top"], [⟨"mark", "int"⟩]⟩

def top : Descriptor := ⟨"a.Top", .interface, [], [⟨"mark", stringType⟩]⟩

/-- A registry in which these types are defined. -/
def forked : Registry :=
  (Registry.ofSettings .default).changed [.define both, .define left, .define right, .define top]

theorem lookup_forked {name : String} {type : Descriptor}
    (plain : Name.element? name.toList = none)
    (first : (Ambient.types ++ [both, left, right, top]).find? (·.name = name) = some type) :
    forked.lookup name = .ok (some type) := by
  have defined : Registry.definitions
      [.define both, .define left, .define right, .define top] = [both, left, right, top] := rfl
  rw [forked, Registry.lookup_of_reflects (Registry.reflects_changed _ _)
    (Name.element?_eq_none_iff.mp plain), defined, first]

theorem lookup_both : forked.lookup "a.Both" = .ok (some both) :=
  lookup_forked (by decide) (by decide)

/-- A walk meets the shared supertype twice, and the universal base at the end. -/
theorem walks_both :
    Walks forked both (.ok [both, left, top, right, top, Ambient.base]) := by
  have known : ∀ (type : Descriptor) (supertype : String) (found : Descriptor),
      Name.element? supertype.toList = none →
      (Ambient.types ++ [both, left, right, top]).find? (·.name = supertype) = some found →
      parent forked type supertype = .ok found := by
    intro type supertype found plain first
    exact parent_eq_ok_iff.mpr (lookup_forked plain first)
  have supertypes : both.allSupertypes = ["a.Left", "a.Right", universalBase] := by decide
  have upLeft : Passes forked ["a.Left", "a.Both"] left left.allSupertypes [top] :=
    .next (known left "a.Top" top (by decide) (by decide)) (by decide) .done .done
  have upRight : Passes forked ["a.Right", "a.Both"] right right.allSupertypes [top] :=
    .next (known right "a.Top" top (by decide) (by decide)) (by decide) .done .done
  refine .passes ?_
  rw [supertypes]
  refine .next (known both "a.Left" left (by decide) (by decide)) (by decide) upLeft ?_
  refine .next (known both "a.Right" right (by decide) (by decide)) (by decide) upRight ?_
  exact .next (known both universalBase Ambient.base (by decide) (by decide)) (by decide) .done
    .done

end Fork

/-- A type that is met twice is listed once, as a walk lists it. -/
theorem forked_type_is_walked :
    Fork.forked.lookup "a.Both" = .ok (some Fork.both) ∧
      Fork.forked.Complete Fork.both ∧ Fork.forked.Acyclic Fork.both ∧
      fields Fork.forked .default Fork.both = .ok (shown Fork.forked .default
        [Fork.both, Fork.left, Fork.top, Fork.right, Fork.top, Ambient.base]) := by
  obtain ⟨-, -, passes, outcome, unique, same⟩ :=
    fields_eq_walk Fork.forked .default "a.Both" Fork.both Fork.lookup_both
  have listed : fields Fork.forked .default Fork.both = .ok (shown Fork.forked .default
      [Fork.both, Fork.left, Fork.top, Fork.right, Fork.top, Ambient.base]) := by
    rw [same, ← (unique _).mp Fork.walks_both]
    rfl
  obtain ⟨complete, acyclic⟩ := passes.mp ⟨_, listed⟩
  exact ⟨Fork.lookup_both, complete, acyclic, listed⟩

end RuleVocabulary.Inspection
