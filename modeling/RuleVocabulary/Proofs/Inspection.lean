import RuleVocabulary.Inspection
import RuleVocabulary.Proofs.Registry.Lookup

/-!
# Surveys of a type and its supertypes

A survey goes through the supertypes of a type in order and stops at the first fault
(`survey_succ`). It never fails fatally (`isFatal_of_fields`). It finds no declarations but those of
types that the registry knows (`declarations_of_survey`), and what it lists in the end has different
names, none of them ignored (`names_of_fields`).
-/

set_option autoImplicit false

namespace RuleVocabulary.Inspection

/-- The part that one supertype has in the survey of a type. -/
def surveyParent (registry : Registry) (fuel : Nat) (path : List String) (type : Descriptor)
    (state : Survey) (supertype : String) : Except Fault Survey :=
  match parent registry type supertype with
  | .error fault => .error fault
  | .ok found => survey registry fuel (type.name :: path) found state

/-- The own declarations of a type, added to those found before. -/
def surveyOwn (type : Descriptor) (state : Survey) : Survey :=
  { state with declarations := type.fields.foldl addDeclaration state.declarations }

theorem survey_succ (registry : Registry) (fuel : Nat) (path : List String) (type : Descriptor)
    (state : Survey) :
    survey registry (fuel + 1) path type state =
      if type.name ∈ path then .error (cyclic type)
      else if type.name ∈ state.finished then .ok state
      else
        match type.allSupertypes.foldlM (surveyParent registry fuel path type)
            (surveyOwn type state) with
        | .error fault => .error fault
        | .ok state => .ok { state with finished := type.name :: state.finished } :=
  rfl

/-! ## Faults -/

theorem isFatal_of_parent {registry : Registry} {type : Descriptor} {supertype : String}
    {fault : Fault} (failed : parent registry type supertype = .error fault) :
    fault.isFatal = false := by
  unfold parent at failed
  split at failed
  · rename_i cause known
    cases failed
    exact Registry.isFatal_of_lookup known
  · cases failed
    rfl
  · cases failed

/-- A fold whose steps fail only in one way fails only in that way. -/
theorem fault_of_foldlM {α σ : Type} {step : σ → α → Except Fault σ} {motive : Fault → Prop}
    (steps : ∀ state element fault, step state element = .error fault → motive fault)
    {elements : List α} {state : σ} {fault : Fault}
    (failed : elements.foldlM step state = .error fault) : motive fault := by
  induction elements generalizing state with
  | nil => cases failed
  | cons element elements ih =>
      rw [List.foldlM_cons] at failed
      cases stepped : step state element with
      | error cause =>
          rw [stepped] at failed
          cases failed
          exact steps state element _ stepped
      | ok next =>
          rw [stepped] at failed
          exact ih failed

theorem isFatal_of_survey {registry : Registry} {fuel : Nat} {path : List String}
    {type : Descriptor} {state : Survey} {fault : Fault}
    (failed : survey registry fuel path type state = .error fault) : fault.isFatal = false := by
  induction fuel generalizing path type state fault with
  | zero =>
      cases failed
      rfl
  | succ fuel ih =>
      rw [survey_succ] at failed
      split at failed
      · cases failed
        rfl
      · split at failed
        · cases failed
        · split at failed
          · rename_i cause inherited
            cases failed
            refine fault_of_foldlM (motive := (·.isFatal = false))
              (fun state supertype cause stepped => ?_) inherited
            unfold surveyParent at stepped
            split at stepped
            · rename_i above
              cases stepped
              exact isFatal_of_parent above
            · exact ih stepped
          · cases failed

/-- Listing the fields of a type never fails fatally. -/
theorem isFatal_of_fields {registry : Registry} {settings : Settings} {type : Descriptor}
    {fault : Fault} (failed : fields registry settings type = .error fault) :
    fault.isFatal = false := by
  unfold fields at failed
  split at failed
  · rename_i surveyed
    cases failed
    exact isFatal_of_survey surveyed
  · cases failed

/-! ## Declarations -/

theorem mem_addDeclaration {declarations : List FieldDeclaration}
    {field declared : FieldDeclaration} (member : declared ∈ addDeclaration declarations field) :
    declared ∈ declarations ∨ declared = field := by
  unfold addDeclaration at member
  split at member
  · exact .inl member
  · simpa using member

theorem mem_foldl_addDeclaration {own declarations : List FieldDeclaration}
    {declared : FieldDeclaration} (member : declared ∈ own.foldl addDeclaration declarations) :
    declared ∈ declarations ∨ declared ∈ own := by
  induction own generalizing declarations with
  | nil => exact .inl member
  | cons field own ih =>
      rcases ih member with earlier | later
      · rcases mem_addDeclaration earlier with before | rfl
        · exact .inl before
        · exact .inr (List.mem_cons_self ..)
      · exact .inr (List.mem_cons_of_mem _ later)

/-- What a fold keeps at each step it keeps altogether. -/
theorem keeps_of_foldlM {α σ : Type} {step : σ → α → Except Fault σ} {motive : σ → Prop}
    (steps : ∀ state element next, motive state → step state element = .ok next → motive next)
    {elements : List α} {state final : σ} (before : motive state)
    (done : elements.foldlM step state = .ok final) : motive final := by
  induction elements generalizing state with
  | nil =>
      cases done
      exact before
  | cons element elements ih =>
      rw [List.foldlM_cons] at done
      cases stepped : step state element with
      | error cause =>
          rw [stepped] at done
          cases done
      | ok next =>
          rw [stepped] at done
          exact ih (steps state element next before stepped) done

/-- **What adding the own declarations of a type keeps, a survey keeps.** The types visited are the
one that it begins with and those that the registry knows. -/
theorem keeps_of_survey {registry : Registry} {visited : Descriptor → Prop}
    {motive : List FieldDeclaration → Prop}
    (known : ∀ name type, registry.lookup name = .ok (some type) → visited type)
    (own : ∀ type declarations, visited type → motive declarations →
      motive (type.fields.foldl addDeclaration declarations))
    {fuel : Nat} {path : List String} {type : Descriptor} {state final : Survey}
    (begins : visited type) (before : motive state.declarations)
    (surveyed : survey registry fuel path type state = .ok final) : motive final.declarations := by
  induction fuel generalizing path type state final with
  | zero => cases surveyed
  | succ fuel ih =>
      rw [survey_succ] at surveyed
      split at surveyed
      · cases surveyed
      · split at surveyed
        · cases surveyed
          exact before
        · split at surveyed
          · cases surveyed
          · rename_i reached inherited
            cases surveyed
            show motive reached.declarations
            refine keeps_of_foldlM (motive := fun state : Survey => motive state.declarations)
              ?_ (own type state.declarations begins before) inherited
            intro state supertype next kept stepped
            unfold surveyParent at stepped
            split at stepped
            · cases stepped
            · rename_i found above
              refine ih (known supertype found ?_) kept stepped
              unfold parent at above
              split at above
              · cases above
              · cases above
              · rename_i looked
                cases above
                exact looked

/-- A survey finds no declarations but those of the types that the registry knows. -/
theorem declarations_of_survey {registry : Registry} {declared : FieldDeclaration → Prop}
    (known : ∀ name type, registry.lookup name = .ok (some type) →
      ∀ field ∈ type.fields, declared field)
    {fuel : Nat} {path : List String} {type : Descriptor} {state final : Survey}
    (own : ∀ field ∈ type.fields, declared field)
    (before : ∀ field ∈ state.declarations, declared field)
    (surveyed : survey registry fuel path type state = .ok final) :
    ∀ field ∈ final.declarations, declared field := by
  refine keeps_of_survey (motive := fun declarations => ∀ field ∈ declarations, declared field)
    known ?_ own before surveyed
  intro type declarations here kept field member
  rcases mem_foldl_addDeclaration member with earlier | new
  · exact kept field earlier
  · exact here field new

/-! ## Names -/

theorem nodup_addDeclaration {declarations : List FieldDeclaration}
    (distinct : (declarations.map FieldDeclaration.name).Nodup) (field : FieldDeclaration) :
    ((addDeclaration declarations field).map FieldDeclaration.name).Nodup := by
  unfold addDeclaration
  split
  · exact distinct
  · rename_i new
    rw [List.map_append, List.nodup_append]
    refine ⟨distinct, by simp, ?_⟩
    rintro name member _ here rfl
    obtain rfl : name = field.name := by simpa using here
    obtain ⟨other, declared, same⟩ := List.mem_map.mp member
    exact new (List.any_eq_true.mpr ⟨other, declared, decide_eq_true same⟩)

theorem nodup_foldl_addDeclaration (own : List FieldDeclaration)
    {declarations : List FieldDeclaration}
    (distinct : (declarations.map FieldDeclaration.name).Nodup) :
    ((own.foldl addDeclaration declarations).map FieldDeclaration.name).Nodup := by
  induction own generalizing declarations with
  | nil => exact distinct
  | cons field own ih => exact ih (nodup_addDeclaration distinct field)

/-- **The fields of a type have different names, and none is ignored**, however many supertypes they
come from. -/
theorem names_of_fields {registry : Registry} {settings : Settings} {type : Descriptor}
    {found : List InspectedField} (listed : fields registry settings type = .ok found) :
    (found.map InspectedField.name).Nodup ∧
      ∀ name ∈ found.map InspectedField.name, settings.isIgnored name = false := by
  unfold fields at listed
  split at listed
  · cases listed
  · rename_i state surveyed
    cases listed
    have names : ((state.declarations.filter (!settings.isIgnored ·.name)).map fun field =>
        (⟨field.name, declaredType? registry field⟩ : InspectedField)).map InspectedField.name =
        (state.declarations.filter (!settings.isIgnored ·.name)).map FieldDeclaration.name :=
      List.map_map
    have distinct : (state.declarations.map FieldDeclaration.name).Nodup := by
      refine @keeps_of_survey registry (fun _ => True)
        (fun declarations => (declarations.map FieldDeclaration.name).Nodup)
        (fun _ _ _ => trivial) ?_ registry.height [] type ⟨[], []⟩ state trivial List.nodup_nil
        surveyed
      intro type declarations _ kept
      exact nodup_foldl_addDeclaration type.fields kept
    rw [names]
    constructor
    · exact distinct.sublist (List.filter_sublist.map FieldDeclaration.name)
    · intro name member
      obtain ⟨field, kept, rfl⟩ := List.mem_map.mp member
      simpa using (List.mem_filter.mp kept).2

end RuleVocabulary.Inspection
