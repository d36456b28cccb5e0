import Mathlib.Data.List.Basic
import RuleVocabulary.Category
import RuleVocabulary.Proofs.Inspection

/-!
# Registries that come to know more

A registry lies below another when the other one finds all that it finds. What is read off a type
may still change on the way up: a supertype or the type of a field that was not known may appear.
It does not change for the types of a closed registry, which knows everything that its types refer
to: their fields, the types of these and the categories of all of them stay as they are
(`fields_of_below`, `ofType?_of_below`).
-/

set_option autoImplicit false

namespace RuleVocabulary

namespace Registry

/-- The second registry finds all that the first one finds. -/
structure Below (before after : Registry) : Prop where
  lookup : ∀ (name : String) (type : Descriptor),
    before.lookup name = .ok (some type) → after.lookup name = .ok (some type)
  height : before.height ≤ after.height

/-- From a type, supertypes that are known lead to types without supertypes in less than `rank`
steps. -/
def Grounded (registry : Registry) : (rank : Nat) → Descriptor → Prop
  | 0, _ => False
  | rank + 1, type => ∀ supertype ∈ type.allSupertypes, ∃ parent,
      registry.lookup supertype = .ok (some parent) ∧ registry.Grounded rank parent

/-- A registry that knows all that its types refer to. -/
structure Closed (registry : Registry) : Prop where
  grounded : ∀ (name : String) (type : Descriptor), registry.lookup name = .ok (some type) →
    registry.Grounded registry.height type
  fields : ∀ (name : String) (type : Descriptor), registry.lookup name = .ok (some type) →
    ∀ field ∈ type.fields, ∃ found, registry.lookup field.typeName = .ok (some found)

theorem Grounded.succ {registry : Registry} {rank : Nat} {type : Descriptor}
    (grounded : registry.Grounded rank type) : registry.Grounded (rank + 1) type := by
  induction rank generalizing type with
  | zero => exact grounded.elim
  | succ rank ih =>
      intro supertype member
      obtain ⟨parent, known, above⟩ := grounded supertype member
      exact ⟨parent, known, ih above⟩

theorem Grounded.mono {registry : Registry} {rank more : Nat} {type : Descriptor}
    (grounded : registry.Grounded rank type) (enough : rank ≤ more) :
    registry.Grounded more type := by
  induction enough with
  | refl => exact grounded
  | step _ ih => exact ih.succ

/-! ## What stays -/

variable {before after : Registry}

/-- Folds whose steps agree on the elements agree. -/
theorem foldlM_ext {α σ : Type} {first second : σ → α → Except Fault σ} {elements : List α}
    (agree : ∀ element ∈ elements, ∀ state, first state element = second state element)
    (state : σ) : elements.foldlM first state = elements.foldlM second state := by
  induction elements generalizing state with
  | nil => rfl
  | cons element elements ih =>
      rw [List.foldlM_cons, List.foldlM_cons, agree element (List.mem_cons_self ..)]
      congr 1
      funext next
      exact ih (fun other member => agree other (List.mem_cons_of_mem _ member)) next

/-- A survey of a grounded type does not change on the way up. -/
theorem survey_of_below (below : Below before after) {rank fuel more : Nat} {path : List String}
    {type : Descriptor} {state : Inspection.Survey} (grounded : before.Grounded rank type)
    (enough : rank ≤ fuel) (enoughAfter : rank ≤ more) :
    Inspection.survey after more path type state =
      Inspection.survey before fuel path type state := by
  induction rank generalizing type path state fuel more with
  | zero => exact grounded.elim
  | succ rank ih =>
      obtain ⟨fuel, rfl⟩ := Nat.exists_eq_add_of_lt enough
      obtain ⟨more, rfl⟩ := Nat.exists_eq_add_of_lt enoughAfter
      rw [Inspection.survey_succ, Inspection.survey_succ]
      have inherited : type.allSupertypes.foldlM
            (Inspection.surveyParent after (rank + more) path type)
            (Inspection.surveyOwn type state) =
          type.allSupertypes.foldlM (Inspection.surveyParent before (rank + fuel) path type)
            (Inspection.surveyOwn type state) := by
        refine foldlM_ext (fun supertype member state => ?_) _
        obtain ⟨parent, known, above⟩ := grounded supertype member
        simp only [Inspection.surveyParent, Inspection.parent, known, below.lookup _ _ known]
        exact ih above (Nat.le_add_right ..) (Nat.le_add_right ..)
      rw [inherited]

/-- A search from a grounded type does not change on the way up. -/
theorem searchFrom_of_below (below : Below before after) {concept : String}
    {rank fuel more : Nat} {type : Descriptor} {search : Subtyping.Search}
    (grounded : before.Grounded rank type) (enough : rank ≤ fuel) (enoughAfter : rank ≤ more) :
    Subtyping.searchFrom after concept more type search =
      Subtyping.searchFrom before concept fuel type search := by
  induction rank generalizing type search fuel more with
  | zero => exact grounded.elim
  | succ rank ih =>
      obtain ⟨fuel, rfl⟩ := Nat.exists_eq_add_of_lt enough
      obtain ⟨more, rfl⟩ := Nat.exists_eq_add_of_lt enoughAfter
      have parents : Subtyping.parents after type = Subtyping.parents before type := by
        refine List.filterMap_congr fun supertype member => ?_
        obtain ⟨parent, known, -⟩ := grounded supertype member
        simp only [known, below.lookup _ _ known]
      have inherited : ∀ search, (Subtyping.parents before type).foldl
            (fun search parent => Subtyping.searchFrom after concept (rank + more) parent search)
            search =
          (Subtyping.parents before type).foldl
            (fun search parent => Subtyping.searchFrom before concept (rank + fuel) parent search)
            search := by
        intro search
        refine List.foldl_ext _ _ _ fun search parent member => ?_
        obtain ⟨supertype, listed, found⟩ := List.mem_filterMap.mp member
        obtain ⟨known, looked, above⟩ := grounded supertype listed
        simp only [looked] at found
        cases found
        exact ih above (Nat.le_add_right ..) (Nat.le_add_right ..)
      simp only [Subtyping.searchFrom, parents, inherited]

/-- Whether one type of a closed registry inherits from another does not change on the way up. -/
theorem isSubtype_of_below (below : Below before after) (closed : before.Closed) {name : String}
    {type : Descriptor} (known : before.lookup name = .ok (some type)) (concept : String) :
    isSubtype after type concept = isSubtype before type concept := by
  unfold isSubtype
  rw [searchFrom_of_below below (closed.grounded name type known) (Nat.le_refl _) below.height]

/-- **The category of a type of a closed registry does not change on the way up.** -/
theorem ofType?_of_below (below : Below before after) (closed : before.Closed) {name : String}
    {type : Descriptor} (known : before.lookup name = .ok (some type)) :
    Category.ofType? after (some type) = Category.ofType? before (some type) := by
  simp only [Category.ofType?, isSubtype_of_below below closed known]

/-- **The fields of a type of a closed registry do not change on the way up.** -/
theorem fields_of_below (below : Below before after) (closed : before.Closed)
    (settings : Settings) {name : String} {type : Descriptor}
    (known : before.lookup name = .ok (some type)) :
    Inspection.fields after settings type = Inspection.fields before settings type := by
  have surveyed : Inspection.survey after after.height [] type ⟨[], []⟩ =
      Inspection.survey before before.height [] type ⟨[], []⟩ :=
    survey_of_below below (closed.grounded name type known) (Nat.le_refl _) below.height
  unfold Inspection.fields
  rw [surveyed]
  cases reached : Inspection.survey before before.height [] type ⟨[], []⟩ with
  | error fault => rfl
  | ok state =>
      have declared := Inspection.declarations_of_survey closed.fields
        (closed.fields name type known) (by simp) reached
      have typed : ∀ field ∈ state.declarations,
          Inspection.declaredType? after field = Inspection.declaredType? before field := by
        intro field member
        obtain ⟨found, looked⟩ := declared field member
        simp only [Inspection.declaredType?, looked, below.lookup _ _ looked]
      refine congrArg Except.ok (List.map_congr_left fun field member => ?_)
      rw [typed field (List.mem_of_mem_filter member)]

/-- The types of the fields of a type are known to a closed registry. -/
theorem declaredType_of_closed (closed : before.Closed) {settings : Settings} {name : String}
    {type : Descriptor} (known : before.lookup name = .ok (some type))
    {fields : List InspectedField} (listed : Inspection.fields before settings type = .ok fields)
    {field : InspectedField} (member : field ∈ fields) :
    ∃ name found, field.declaredType = some found ∧ before.lookup name = .ok (some found) := by
  unfold Inspection.fields at listed
  split at listed
  · cases listed
  · rename_i state reached
    cases listed
    obtain ⟨declaration, kept, rfl⟩ := List.mem_map.mp member
    obtain ⟨found, looked⟩ := Inspection.declarations_of_survey closed.fields
      (closed.fields name type known) (by simp) reached declaration (List.mem_of_mem_filter kept)
    exact ⟨declaration.typeName, found, by simp only [Inspection.declaredType?, looked], looked⟩

end Registry

end RuleVocabulary
