import RuleVocabulary.Vocabulary.Basic

/-!
# Vocabularies apart from their categories

Two sequences of edits that differ in categories alone make vocabularies that differ in categories
alone (`uncategorized_foldl`). The category under a key is the one entered last, so edits made to
both of two vocabularies bring them together under the keys that they decide, and change nothing
under the others (`agrees_foldl_iff`).

Edits that concern types leave the globals and the sentences alone (`untyped_foldl`).
-/

set_option autoImplicit false

namespace RuleVocabulary.Vocabulary

/-- A vocabulary without its categories. -/
def uncategorized (vocabulary : Vocabulary) : Vocabulary :=
  { vocabulary with fieldTypes := ∅ }

/-- Whether the category under a key does not depend on what was there before an edit. -/
def Edit.Decides (key : String) : Edit → Prop
  | .fieldType decided _ => decided = key
  | .reset => True
  | .factType _ | .fields .. | .global .. | .condition _ | .action _ => False

variable {first second : Vocabulary}

/-- Vocabularies are equal if they are equal apart from their categories, and in these. -/
theorem eq_iff_uncategorized :
    first = second ↔ first.uncategorized = second.uncategorized ∧
      ∀ key, first.categoryUnder? key = second.categoryUnder? key := by
  constructor
  · rintro rfl
    exact ⟨rfl, fun _ => rfl⟩
  · rintro ⟨same, categories⟩
    have tables : first.fieldTypes = second.fieldTypes :=
      Std.ExtTreeMap.ext_getElem? fun key => categories key
    cases first
    cases second
    simp only [uncategorized, mk.injEq] at same
    simp only [mk.injEq]
    exact ⟨same.1, same.2.1, tables, same.2.2.2⟩

theorem hasFields_of_uncategorized (same : first.uncategorized = second.uncategorized)
    (type : String) : first.hasFields type = second.hasFields type :=
  show first.uncategorized.hasFields type = second.uncategorized.hasFields type by rw [same]

theorem hasFields_iff (vocabulary : Vocabulary) (type : String) :
    vocabulary.hasFields type = true ↔ ∃ names, vocabulary.fields? type = some names := by
  rw [hasFields, Std.ExtTreeMap.contains_eq_isSome_getElem?, Option.isSome_iff_exists]
  rfl

/-- Listing a fact type changes the list and nothing else. -/
theorem addFactType_eq (vocabulary : Vocabulary) (name : String) :
    vocabulary.addFactType name =
      { vocabulary with
        factTypes := if name ∈ vocabulary.factTypes then vocabulary.factTypes
          else vocabulary.factTypes ++ [name] } := by
  unfold addFactType
  split <;> rfl

/-! ## Edits of two vocabularies -/

theorem uncategorized_edit (same : first.uncategorized = second.uncategorized) (edit : Edit) :
    (first.edit edit).uncategorized = (second.edit edit).uncategorized := by
  have edited : (first.uncategorized.edit edit).uncategorized =
      (second.uncategorized.edit edit).uncategorized := by
    rw [same]
  have apart : ∀ vocabulary : Vocabulary,
      (vocabulary.uncategorized.edit edit).uncategorized =
        (vocabulary.edit edit).uncategorized := by
    intro vocabulary
    cases edit with
    | factType name =>
        simp only [Vocabulary.edit, addFactType_eq]
        rfl
    | fields type fields => rfl
    | fieldType key category => rfl
    | global identifier type => rfl
    | condition sentence => rfl
    | action sentence => rfl
    | reset => rfl
  rw [← apart first, ← apart second, edited]

theorem uncategorized_foldl (same : first.uncategorized = second.uncategorized)
    (edits : List Edit) :
    (edits.foldl edit first).uncategorized = (edits.foldl edit second).uncategorized := by
  induction edits generalizing first second with
  | nil => exact same
  | cons edit edits ih => exact ih (uncategorized_edit same edit)

theorem categoryUnder?_setFieldType (vocabulary : Vocabulary) (decided key : String)
    (category : Category) :
    (vocabulary.setFieldType decided category).categoryUnder? key =
      if decided = key then some category else vocabulary.categoryUnder? key := by
  simp only [categoryUnder?, setFieldType, Std.ExtTreeMap.getElem?_insert, Std.compare_eq_iff_eq]

theorem fields?_setFields (vocabulary : Vocabulary) (set type : String) (names : List String) :
    (vocabulary.setFields set names).fields? type =
      if set = type then some names else vocabulary.fields? type := by
  simp only [fields?, setFields, Std.ExtTreeMap.getElem?_insert, Std.compare_eq_iff_eq]

theorem globalType?_bindGlobal (vocabulary : Vocabulary) (bound identifier type : String) :
    (vocabulary.bindGlobal bound type).globalType? identifier =
      if bound = identifier then some type else vocabulary.globalType? identifier := by
  simp only [globalType?, bindGlobal, Std.ExtTreeMap.getElem?_insert, Std.compare_eq_iff_eq]

/-- An edit brings vocabularies together under the keys that it decides. -/
theorem agrees_edit_iff (first second : Vocabulary) (edit : Edit) (key : String) :
    (first.edit edit).categoryUnder? key = (second.edit edit).categoryUnder? key ↔
      first.categoryUnder? key = second.categoryUnder? key ∨ edit.Decides key := by
  cases edit with
  | fieldType decided category =>
      simp only [Vocabulary.edit, categoryUnder?_setFieldType, Edit.Decides]
      by_cases same : decided = key <;> simp [same]
  | factType name =>
      simp only [Vocabulary.edit, addFactType_eq]
      exact (or_iff_left id).symm
  | fields type fields => exact (or_iff_left id).symm
  | global identifier type => exact (or_iff_left id).symm
  | condition sentence => exact (or_iff_left id).symm
  | action sentence => exact (or_iff_left id).symm
  | reset => exact iff_of_true rfl (.inr trivial)

/-- Edits bring vocabularies together under the keys that they decide. -/
theorem agrees_foldl_iff (first second : Vocabulary) (edits : List Edit) (key : String) :
    (edits.foldl edit first).categoryUnder? key = (edits.foldl edit second).categoryUnder? key ↔
      first.categoryUnder? key = second.categoryUnder? key ∨
        ∃ edit ∈ edits, edit.Decides key := by
  induction edits generalizing first second with
  | nil => simp
  | cons edit edits ih =>
      rw [List.foldl_cons, List.foldl_cons, ih, agrees_edit_iff, or_assoc]
      simp only [List.mem_cons, exists_eq_or_imp]

/-! ## What edits list -/

/-- Where nothing is taken back, the fact types are those listed before and those listed by edits. -/
theorem mem_factTypes_foldl {edits : List Edit} (lasting : .reset ∉ edits)
    (vocabulary : Vocabulary) (name : String) :
    name ∈ (edits.foldl edit vocabulary).factTypes ↔
      name ∈ vocabulary.factTypes ∨ .factType name ∈ edits := by
  induction edits generalizing vocabulary with
  | nil => simp
  | cons first edits ih =>
      obtain ⟨kept, rest⟩ := not_or.mp (mt List.mem_cons.mpr lasting)
      rw [List.foldl_cons, ih rest, List.mem_cons, ← or_assoc]
      refine or_congr_left ?_
      cases first with
      | factType listed =>
          simp only [Vocabulary.edit, addFactType_eq, Edit.factType.injEq]
          by_cases known : listed ∈ vocabulary.factTypes
          · simp only [if_pos known]
            exact ⟨.inl, fun either => either.elim id fun same => same ▸ known⟩
          · simp only [if_neg known, List.mem_append, List.mem_singleton]
      | reset => exact absurd rfl kept
      | fields type fields => exact (or_iff_left nofun).symm
      | fieldType key category => exact (or_iff_left nofun).symm
      | global identifier type => exact (or_iff_left nofun).symm
      | condition sentence => exact (or_iff_left nofun).symm
      | action sentence => exact (or_iff_left nofun).symm

/-- Where nothing is taken back, fields are known of the types that had them before and those that
edits give them to. -/
theorem hasFields_foldl {edits : List Edit} (lasting : .reset ∉ edits)
    (vocabulary : Vocabulary) (type : String) :
    (edits.foldl edit vocabulary).hasFields type = true ↔
      vocabulary.hasFields type = true ∨ ∃ names, .fields type names ∈ edits := by
  induction edits generalizing vocabulary with
  | nil => simp
  | cons first edits ih =>
      obtain ⟨kept, rest⟩ := not_or.mp (mt List.mem_cons.mpr lasting)
      simp only [List.foldl_cons, ih rest, List.mem_cons, exists_or, ← or_assoc]
      refine or_congr_left ?_
      cases first with
      | fields entered names =>
          have named : (∃ other, Edit.fields type other = .fields entered names) ↔
              entered = type := by
            constructor
            · rintro ⟨other, same⟩
              exact (Edit.fields.inj same).1.symm
            · rintro rfl
              exact ⟨names, rfl⟩
          rw [named, or_comm]
          simp [Vocabulary.edit, setFields, hasFields, Std.ExtTreeMap.contains_insert]
      | factType listed =>
          simp only [Vocabulary.edit, addFactType_eq]
          exact (or_iff_left nofun).symm
      | reset => exact absurd rfl kept
      | fieldType key category => exact (or_iff_left nofun).symm
      | global identifier type => exact (or_iff_left nofun).symm
      | condition sentence => exact (or_iff_left nofun).symm
      | action sentence => exact (or_iff_left nofun).symm

/-- Where nothing is taken back, there are categories under the keys that had them before and under
those that edits decide. -/
theorem mem_fieldTypes_foldl {edits : List Edit} (lasting : .reset ∉ edits)
    (vocabulary : Vocabulary) (key : String) :
    key ∈ (edits.foldl edit vocabulary).fieldTypes ↔
      key ∈ vocabulary.fieldTypes ∨ ∃ edit ∈ edits, edit.Decides key := by
  induction edits generalizing vocabulary with
  | nil => simp
  | cons first edits ih =>
      obtain ⟨kept, rest⟩ := not_or.mp (mt List.mem_cons.mpr lasting)
      simp only [List.foldl_cons, ih rest, List.mem_cons, exists_eq_or_imp, ← or_assoc]
      refine or_congr_left ?_
      cases first with
      | fieldType decided category =>
          simp only [Vocabulary.edit, setFieldType, Std.ExtTreeMap.mem_insert,
            Std.compare_eq_iff_eq, Edit.Decides]
          exact or_comm
      | factType listed =>
          simp only [Vocabulary.edit, addFactType_eq]
          exact (or_iff_left id).symm
      | reset => exact absurd rfl kept
      | fields type fields => exact (or_iff_left id).symm
      | global identifier type => exact (or_iff_left id).symm
      | condition sentence => exact (or_iff_left id).symm
      | action sentence => exact (or_iff_left id).symm

/-! ## Edits of types -/

/-- A vocabulary without its types: what is left are the globals and the sentences. -/
def untyped (vocabulary : Vocabulary) : Vocabulary :=
  { vocabulary with factTypes := [], fields := ∅, fieldTypes := ∅ }

/-- Whether an edit concerns types, their fields or the categories of these. -/
def Edit.OfType : Edit → Prop
  | .factType _ | .fields .. | .fieldType .. => True
  | .global .. | .condition _ | .action _ | .reset => False

theorem untyped_edit {edit : Edit} (concerns : edit.OfType) (vocabulary : Vocabulary) :
    (vocabulary.edit edit).untyped = vocabulary.untyped := by
  cases edit with
  | factType name =>
      simp only [Vocabulary.edit, addFactType_eq]
      rfl
  | fields type fields => rfl
  | fieldType key category => rfl
  | global identifier type => exact concerns.elim
  | condition sentence => exact concerns.elim
  | action sentence => exact concerns.elim
  | reset => exact concerns.elim

/-- Edits of types leave the globals and the sentences as they are. -/
theorem untyped_foldl {edits : List Edit} (concern : ∀ edit ∈ edits, edit.OfType)
    (vocabulary : Vocabulary) : (edits.foldl edit vocabulary).untyped = vocabulary.untyped := by
  induction edits generalizing vocabulary with
  | nil => rfl
  | cons edit edits ih =>
      rw [List.foldl_cons, ih fun other member => concern other (List.mem_cons_of_mem _ member)]
      exact untyped_edit (concern edit (List.mem_cons_self ..)) vocabulary

end RuleVocabulary.Vocabulary
