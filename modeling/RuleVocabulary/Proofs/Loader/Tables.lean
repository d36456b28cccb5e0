import Mathlib.Data.Set.Function
import RuleVocabulary.Proofs.Loader.Listing

/-!
# The tables of a vocabulary

The tables that a build leaves refer to each other. Every fact type has fields, every listed field
has a category, and what imports and globals list repeats no name and holds no ignored one
(`vocabulary_closed`).

The other way round this fails. A category stays where the fields of its type are overwritten, so
there may be categories of fields that no type has. And the key of a field does not tell where the
name of its type ends, so two fields may share one key, if the name of a template holds a dot
(`Name.eq_or_inner_of_join_eq`). Main statement: fields and categories correspond exactly where
neither is the case (`fields_match_categories_iff`).
-/

set_option autoImplicit false

namespace RuleVocabulary

/-! ## Joined names -/

namespace Name

theorem toList_join (qualifier name : String) :
    (join qualifier name).toList = qualifier.toList ++ '.' :: name.toList := by
  simp [join]

theorem join_assoc (first second third : String) :
    join (join first second) third = join first (join second third) := by
  rw [← String.toList_inj]
  simp only [toList_join, List.append_assoc, List.cons_append]

theorem join_ne_qualifier (qualifier name : String) : join qualifier name ≠ qualifier := by
  intro same
  have lengths := congrArg (fun text => text.toList.length) same
  simp [toList_join] at lengths

/-- A qualifier that goes on where another one ends goes on with a name. -/
theorem eq_or_inner_of_longer {first second left right : String} {more : List Char}
    (longer : second.toList = first.toList ++ more)
    (rest : '.' :: left.toList = more ++ '.' :: right.toList) :
    (first = second ∧ left = right) ∨
      ∃ inner, second = join first inner ∧ left = join inner right := by
  cases more with
  | nil =>
      refine .inl ⟨?_, ?_⟩
      · rw [← String.toList_inj, longer, List.append_nil]
      · rw [← String.toList_inj]
        exact (List.cons.inj rest).2
  | cons dot more =>
      obtain ⟨rfl, behind⟩ := List.cons.inj rest
      refine .inr ⟨String.ofList more, ?_, ?_⟩
      · rw [← String.toList_inj, longer, toList_join, String.toList_ofList]
      · rw [← String.toList_inj, toList_join, String.toList_ofList]
        exact behind

/-- Two pairs of names that are joined alike are equal, or one qualifier goes on where the other
ends. -/
theorem eq_or_inner_of_join_eq {first second left right : String}
    (same : join first left = join second right) :
    (first = second ∧ left = right) ∨
      (∃ inner, second = join first inner ∧ left = join inner right) ∨
        ∃ inner, first = join second inner ∧ right = join inner left := by
  rw [← String.toList_inj, toList_join, toList_join] at same
  rcases List.append_eq_append_iff.mp same with ⟨more, longer, rest⟩ | ⟨more, longer, rest⟩
  · exact (eq_or_inner_of_longer longer rest).imp_right .inl
  · rcases eq_or_inner_of_longer longer rest with ⟨one, other⟩ | inner
    · exact .inl ⟨one.symm, other.symm⟩
    · exact .inr (.inr inner)

end Name

/-! ## Listed fields and keys of categories -/

namespace Vocabulary

/-- The fields that a vocabulary lists, each with its type. -/
def listedFields (vocabulary : Vocabulary) : Set (String × String) :=
  {field | ∃ names, vocabulary.fields? field.1 = some names ∧ field.2 ∈ names}

/-- The keys under which a vocabulary has categories. -/
def categoryKeys (vocabulary : Vocabulary) : Set String :=
  {key | key ∈ vocabulary.fieldTypes}

/-- The key of a field that is given with its type. -/
def keyOf (field : String × String) : String :=
  fieldKey field.1 field.2

/-- Fields are told apart by their keys unless the name of a type goes on with what the name of a
field of another type begins with. -/
theorem injOn_keyOf_iff (fields : Set (String × String)) :
    Set.InjOn keyOf fields ↔ ∀ type inner name,
      (Name.join type inner, name) ∈ fields → (type, Name.join inner name) ∉ fields := by
  constructor
  · intro injective type inner name longer shorter
    have same : keyOf (Name.join type inner, name) = keyOf (type, Name.join inner name) :=
      Name.join_assoc type inner name
    have equal := injective longer shorter same
    exact Name.join_ne_qualifier type inner (congrArg Prod.fst equal)
  · rintro apart ⟨first, left⟩ here ⟨second, right⟩ there same
    have joined : Name.join first left = Name.join second right := same
    rcases Name.eq_or_inner_of_join_eq joined with
      ⟨rfl, rfl⟩ | ⟨inner, rfl, rfl⟩ | ⟨inner, rfl, rfl⟩
    · rfl
    · exact absurd here (apart first inner right there)
    · exact absurd there (apart second inner left here)

end Vocabulary

namespace Loader

variable {archives : List Archive}

/-! ## Where listed fields come from -/

/-- A listing of a type that was looked up: a short name, and different names of fields that authors
may see. -/
structure Inspected (settings : Settings) (listing : Listing) : Prop where
  short : '.' ∉ listing.type.toList
  distinct : listing.names.Nodup
  shown : ∀ name ∈ listing.names, settings.isIgnored name = false

theorem inspected_of_listing? {loader : Loader} {name : String} {listing : Listing}
    (found : loader.listing? name = some listing) : Inspected loader.settings listing := by
  unfold listing? at found
  split at found
  · rename_i type fields known
    cases found
    unfold typeFields at known
    split at known
    · cases known
    · cases known
    · split at known
      · cases known
      · rename_i listed
        cases known
        obtain ⟨distinct, shown⟩ := Inspection.names_of_fields listed
        refine ⟨?_, distinct, shown⟩
        rw [Name.short, String.toList_ofList]
        exact Name.dot_not_mem_short name.toList
  · cases found
  · cases found

theorem inspected_of_importListings {package : Header.Package} {progress : Progress}
    {listing : Listing} (member : listing ∈ importListings archives package progress) :
    Inspected progress.settings listing := by
  obtain ⟨⟨target, after⟩, passed, entered⟩ := List.mem_filterMap.mp member
  rw [← settings_of_importTrail passed]
  unfold importListing? at entered
  split at entered
  · cases entered
  · exact inspected_of_listing? entered

theorem inspected_of_globalListings {package : Header.Package} {progress : Progress}
    {listing : Listing} (member : listing ∈ globalListings archives package progress) :
    Inspected progress.settings listing := by
  obtain ⟨⟨global, after⟩, passed, entered⟩ := List.mem_filterMap.mp member
  rw [← settings_of_globalTrail passed]
  exact inspected_of_listing? entered

/-- What is listed in the end was listed by a template, or it is of a type that was looked up. -/
theorem template_or_inspected {package : Header.Package} {progress : Progress}
    {vocabulary : Vocabulary}
    (tabulated : Tabulated (importListings archives package progress ++ templateListings package)
      (globalListings archives package progress) vocabulary)
    {type : String} {names : List String} (listed : vocabulary.fields? type = some names) :
    type ∈ package.templates.map Header.Template.name ∨
      Inspected progress.settings ⟨type, names⟩ := by
  rw [Vocabulary.fields?, tabulated.fields, Option.or_eq_some_iff] at listed
  rcases listed with declared | ⟨-, bound⟩
  · rcases List.mem_append.mp (Listing.mem_of_last? declared) with imported | templated
    · exact .inr (inspected_of_importListings imported)
    · obtain ⟨template, known, same⟩ := List.mem_map.mp templated
      exact .inl (List.mem_map.mpr ⟨template, known, congrArg Listing.type same⟩)
  · exact .inr (inspected_of_globalListings (Listing.mem_of_first? bound))

/-! ## Closure -/

/-- **The tables of a vocabulary refer to each other.** The fact types are different and have
fields, every listed field has a category, and the fields of a type that no template declares have
different names, none of them ignored. -/
theorem vocabulary_closed (loader : Loader) (header : String) (archives : List Archive)
    (files : List Mapping.File) (outcome : Outcome)
    (built : (loader.build header archives files).1 = .ok outcome) :
    ∃ reading, declared header = .ok reading ∧
      outcome.vocabulary.factTypes.Nodup ∧
      (∀ type ∈ outcome.vocabulary.factTypes, ∃ names,
        outcome.vocabulary.fields? type = some names) ∧
      (∀ type names, outcome.vocabulary.fields? type = some names → ∀ name ∈ names,
        ∃ category, outcome.vocabulary.category? type name = some category) ∧
      ∀ type names, outcome.vocabulary.fields? type = some names →
        type ∉ reading.package.templates.map Header.Template.name →
          names.Nodup ∧ ∀ name ∈ names, name ∉ loader.settings.ignoredMembers := by
  obtain ⟨reading, read, tabulated⟩ := tabulated_of_build built
  refine ⟨reading, read, ?_, ?_, ?_, ?_⟩
  · rw [tabulated.factTypes]
    exact nodup_eraseDups _
  · intro type member
    rw [tabulated.factTypes, List.mem_eraseDups, List.mem_map] at member
    obtain ⟨listing, declared, rfl⟩ := member
    obtain ⟨names, last⟩ := Listing.last?_isSome_of_mem declared
    refine ⟨names, ?_⟩
    rw [Vocabulary.fields?, tabulated.fields, last, Option.some_or]
  · intro type names listed name member
    have key : Vocabulary.fieldKey type name ∈ outcome.vocabulary.fieldTypes := by
      refine (tabulated.keys _).mpr (.inr ⟨⟨type, names⟩, listed, ?_⟩)
      exact List.mem_map_of_mem member
    rw [Vocabulary.category?, Vocabulary.categoryUnder?]
    exact Option.isSome_iff_exists.mp (Std.ExtTreeMap.mem_iff_isSome_getElem?.mp key)
  · intro type names listed undeclared
    have inspected := (template_or_inspected tabulated listed).resolve_left undeclared
    refine ⟨inspected.distinct, ?_⟩
    intro name member ignored
    have shown := inspected.shown name member
    rw [Settings.isIgnored, List.contains_eq_mem, decide_eq_false_iff_not] at shown
    exact shown ignored

theorem templates_of_collision :
    (declared collision).map (·.package.templates.map Header.Template.name) =
      .ok ["T", "T"] := by
  decide +kernel

/-- Of two types with fields, the imported one lists each field once. The template repeats a field,
and the field has its category all the same. -/
theorem collision_is_closed :
    ∃ outcome, (colliding.build collision [] []).1 = .ok outcome ∧
      outcome.vocabulary.factTypes = ["X", "T"] ∧ ["X", "T"].Nodup ∧
      outcome.vocabulary.fields? "T" = some ["v", "v"] ∧
      (∃ category, outcome.vocabulary.category? "T" "v" = some category) ∧
      outcome.vocabulary.fields? "X" = some ["q"] ∧
      ["q"].Nodup ∧ "q" ∉ colliding.settings.ignoredMembers := by
  obtain ⟨outcome, built, vocabulary⟩ := exists_outcome_of_collision
  obtain ⟨reading, read, different, -, categories, inspected⟩ :=
    vocabulary_closed colliding collision [] [] outcome built
  have factTypes : outcome.vocabulary.factTypes = ["X", "T"] := by
    rw [vocabulary]
    decide
  have templated : outcome.vocabulary.fields? "T" = some ["v", "v"] := by
    rw [vocabulary]
    decide
  have imported : outcome.vocabulary.fields? "X" = some ["q"] := by
    rw [vocabulary]
    decide
  have undeclared : "X" ∉ reading.package.templates.map Header.Template.name := by
    have templates := templates_of_collision
    rw [read] at templates
    have named : reading.package.templates.map Header.Template.name = ["T", "T"] :=
      Except.ok.inj templates
    rw [named]
    decide
  obtain ⟨distinct, shown⟩ := inspected "X" ["q"] imported undeclared
  refine ⟨outcome, built, factTypes, ?_, templated, ?_, imported, distinct, ?_⟩
  · rw [← factTypes]
    exact different
  · exact categories "T" ["v", "v"] templated "v" (List.mem_cons_self ..)
  · exact shown "q" (List.mem_cons_self ..)

/-! ## Categories without fields -/

/-- The keys of listed fields are those of what a vocabulary lists for a type. -/
theorem mem_image_keyOf_iff (vocabulary : Vocabulary) (key : String) :
    key ∈ Vocabulary.keyOf '' vocabulary.listedFields ↔
      ∃ listing : Listing, vocabulary.fields[listing.type]? = some listing.names ∧
        key ∈ listing.keys := by
  constructor
  · rintro ⟨⟨type, name⟩, ⟨names, listed, member⟩, rfl⟩
    exact ⟨⟨type, names⟩, listed, List.mem_map_of_mem member⟩
  · rintro ⟨⟨type, names⟩, listed, member⟩
    obtain ⟨name, known, rfl⟩ := List.mem_map.mp member
    exact ⟨(type, name), ⟨names, listed, known⟩, rfl⟩

/-- **Fields and categories correspond exactly where nothing listed is lost and no keys coincide.**
Every listed field has a category. The fields correspond to the keys of categories one to one if and
only if each key that an import or a template has entered is still that of a listed field, and no
type goes on with what the name of a field of another type begins with. A type whose name holds a
dot is a template. -/
theorem fields_match_categories_iff (loader : Loader) (header : String) (archives : List Archive)
    (files : List Mapping.File) (outcome : Outcome)
    (built : (loader.build header archives files).1 = .ok outcome) :
    ∃ reading, declared header = .ok reading ∧
      let declarations := importListings archives reading.package (begun loader reading) ++
        templateListings reading.package
      let fields := outcome.vocabulary.listedFields
      let keys := outcome.vocabulary.categoryKeys
      Set.MapsTo Vocabulary.keyOf fields keys ∧
      (Set.BijOn Vocabulary.keyOf fields keys ↔
        (∀ listing ∈ declarations, ∀ key ∈ listing.keys, key ∈ Vocabulary.keyOf '' fields) ∧
        ∀ type inner name, (Name.join type inner, name) ∈ fields →
          (type, Name.join inner name) ∉ fields) ∧
      ∀ field ∈ fields, '.' ∈ field.1.toList →
        field.1 ∈ reading.package.templates.map Header.Template.name := by
  obtain ⟨reading, read, tabulated⟩ := tabulated_of_build built
  refine ⟨reading, read, ?_⟩
  intro declarations fields keys
  have keyed : ∀ key, key ∈ keys ↔
      (∃ listing ∈ declarations, key ∈ listing.keys) ∨ key ∈ Vocabulary.keyOf '' fields := by
    intro key
    rw [mem_image_keyOf_iff]
    exact tabulated.keys key
  have maps : Set.MapsTo Vocabulary.keyOf fields keys := by
    intro field listed
    exact (keyed _).mpr (.inr (Set.mem_image_of_mem _ listed))
  refine ⟨maps, ?_, ?_⟩
  · rw [← Vocabulary.injOn_keyOf_iff]
    constructor
    · rintro ⟨-, injective, onto⟩
      refine ⟨?_, injective⟩
      intro listing declared key member
      exact onto ((keyed key).mpr (.inl ⟨listing, declared, member⟩))
    · rintro ⟨kept, injective⟩
      refine ⟨maps, injective, ?_⟩
      intro key known
      rcases (keyed key).mp known with ⟨listing, declared, member⟩ | listed
      · exact kept listing declared key member
      · exact listed
  · rintro ⟨type, name⟩ ⟨names, listed, -⟩ dotted
    exact (template_or_inspected tabulated listed).resolve_right fun inspected =>
      inspected.short dotted

theorem fields?_collided (type : String) :
    collided.fields? type =
      if "T" = type then some ["v", "v"] else if "X" = type then some ["q"] else none := by
  have table : collided.fields =
      ((∅ : Std.ExtTreeMap String (List String) compare).insert "X" ["q"]).insert "T"
        ["v", "v"] := rfl
  rw [Vocabulary.fields?, table]
  simp only [Std.ExtTreeMap.getElem?_insert, Std.ExtTreeMap.getElem?_empty,
    Std.compare_eq_iff_eq]

theorem listedFields_collided : collided.listedFields = {("T", "v"), ("X", "q")} := by
  ext ⟨type, name⟩
  show (∃ names, collided.fields? type = some names ∧ name ∈ names) ↔ _
  rw [fields?_collided]
  constructor
  · rintro ⟨names, listed, member⟩
    split at listed
    · rename_i template
      cases listed
      obtain rfl : name = "v" := by simpa using member
      exact .inl (congrArg (·, "v") template.symm)
    · split at listed
      · rename_i imported
        cases listed
        obtain rfl : name = "q" := by simpa using member
        exact .inr (congrArg (·, "q") imported.symm)
      · cases listed
  · rintro (same | same)
    · cases same
      exact ⟨["v", "v"], rfl, List.mem_cons_self ..⟩
    · cases same
      exact ⟨["q"], rfl, List.mem_cons_self ..⟩

/-- The import that is overwritten has entered a key, which is not that of a listed field. -/
theorem overwritten_import_keeps_category :
    ∃ outcome reading, (colliding.build collision [] []).1 = .ok outcome ∧
      declared collision = .ok reading ∧
      outcome.vocabulary.fields? "X" = some ["q"] ∧
      outcome.vocabulary.category? "X" "p" = some .numeric ∧
      ¬ Set.BijOn Vocabulary.keyOf outcome.vocabulary.listedFields
        outcome.vocabulary.categoryKeys ∧
      ∃ listing ∈ importListings [] reading.package (begun colliding reading) ++
          templateListings reading.package,
        ∃ key ∈ listing.keys, key ∉ Vocabulary.keyOf '' outcome.vocabulary.listedFields := by
  obtain ⟨outcome, built, vocabulary⟩ := exists_outcome_of_collision
  obtain ⟨reading, read, -, corresponds, -⟩ :=
    fields_match_categories_iff colliding collision [] [] outcome built
  have category : outcome.vocabulary.category? "X" "p" = some .numeric := by
    rw [vocabulary]
    decide
  have listed : outcome.vocabulary.listedFields = {("T", "v"), ("X", "q")} := by
    rw [vocabulary]
    exact listedFields_collided
  have stale : ¬ Set.BijOn Vocabulary.keyOf outcome.vocabulary.listedFields
      outcome.vocabulary.categoryKeys := by
    rintro ⟨-, -, onto⟩
    have known : Vocabulary.fieldKey "X" "p" ∈ outcome.vocabulary.categoryKeys :=
      Std.ExtTreeMap.mem_iff_isSome_getElem?.mpr (Option.isSome_of_eq_some category)
    obtain ⟨field, member, same⟩ := onto known
    rw [listed] at member
    rcases member with rfl | rfl
    · exact absurd same (by decide)
    · exact absurd same (by decide)
  have injective : Set.InjOn Vocabulary.keyOf outcome.vocabulary.listedFields := by
    rw [listed]
    rintro first (rfl | rfl) second (rfl | rfl) same
    · rfl
    · exact absurd same (by decide)
    · exact absurd same (by decide)
    · rfl
  refine ⟨outcome, reading, built, read, ?_, category, stale, ?_⟩
  · rw [vocabulary]
    decide
  · by_contra kept
    push Not at kept
    exact stale (corresponds.mpr ⟨kept, (Vocabulary.injOn_keyOf_iff _).mp injective⟩)

end Loader

end RuleVocabulary
