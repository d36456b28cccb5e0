import RuleVocabulary.Proofs.Loader.Bindings
import RuleVocabulary.Proofs.Loader.Tables

/-!
# Short names of types

The names of types in a vocabulary come from three sources. A type that was looked up, for an import
or for a global, goes by what stands behind the last dot of its name, so its name is short. A
template goes by the name that it gives itself, and a quoted name may hold dots
(`short_or_template`).

The key of a field is made of the names of its type and of the field, with a dot between, and the
field may have any name. So the first dot of a key tells where the name of the type ends exactly if
that name is short (`Name.cutAtDot_join_iff`).

Main statement: the names of types are short, and every key is cut at its first dot into the type
and the field that it was entered for, exactly where no template has a name with a dot
(`names_are_short_iff`). A negative control is the template `"a.B"`, whose field `x` has the key of
a field `B.x` of a type `a` (`quoted_name_is_not_short`).
-/

set_option autoImplicit false

namespace RuleVocabulary

namespace Name

/-- Whether a name is short: it holds no dot. -/
def IsShort (name : String) : Prop :=
  '.' ∉ name.toList

/-- A name cut at its first dot. -/
def cutAtDot (name : String) : String × String :=
  (String.ofList (name.toList.takeWhile (· ≠ '.')),
    String.ofList (name.toList.dropWhile (· ≠ '.')).tail)

theorem isShort_short (name : String) : IsShort (short name) := by
  rw [IsShort, short, String.toList_ofList]
  exact dot_not_mem_short name.toList

theorem isShort_cutAtDot (name : String) : IsShort (cutAtDot name).1 := by
  intro member
  rw [cutAtDot, String.toList_ofList] at member
  simpa using List.mem_takeWhile_imp member

/-- A joined name is cut where it was joined exactly if the first of the two names is short. -/
theorem cutAtDot_join_iff (qualifier name : String) :
    cutAtDot (join qualifier name) = (qualifier, name) ↔ IsShort qualifier := by
  constructor
  · intro cut
    have short := isShort_cutAtDot (join qualifier name)
    rw [cut] at short
    exact short
  · intro short
    have passed : ∀ c ∈ qualifier.toList, decide (c ≠ '.') = true := by
      intro c member
      simp only [ne_eq, decide_not, Bool.not_eq_eq_eq_not, Bool.not_true, decide_eq_false_iff_not]
      rintro rfl
      exact short member
    have front : (join qualifier name).toList.takeWhile (· ≠ '.') = qualifier.toList := by
      rw [toList_join, List.takeWhile_append_of_pos passed]
      simp
    have behind : (join qualifier name).toList.dropWhile (· ≠ '.') = '.' :: name.toList := by
      rw [toList_join, List.dropWhile_append_of_pos passed]
      simp
    rw [cutAtDot, front, behind, List.tail_cons, String.ofList_toList, String.ofList_toList]

end Name

namespace Vocabulary

/-- The names of the types in a vocabulary are short. -/
structure ShortNamed (vocabulary : Vocabulary) : Prop where
  factTypes : ∀ type ∈ vocabulary.factTypes, Name.IsShort type
  fields : ∀ type, vocabulary.hasFields type = true → Name.IsShort type
  globals : ∀ identifier type, vocabulary.globalType? identifier = some type → Name.IsShort type

end Vocabulary

/-- The fields that a listing enters, each with its type. -/
def Listing.fields (listing : Listing) : Set (String × String) :=
  {field | field.1 = listing.type ∧ field.2 ∈ listing.names}

theorem Listing.mem_keys_iff (listing : Listing) (key : String) :
    key ∈ listing.keys ↔ ∃ field ∈ listing.fields, Vocabulary.keyOf field = key := by
  rw [keys, List.mem_map]
  constructor
  · rintro ⟨name, member, same⟩
    exact ⟨(listing.type, name), ⟨rfl, member⟩, same⟩
  · rintro ⟨⟨type, name⟩, ⟨rfl, member⟩, same⟩
    exact ⟨name, member, same⟩

namespace Loader

variable {archives : List Archive} {package : Header.Package} {progress : Progress}
  {vocabulary : Vocabulary}

/-- The fields that were entered by one of the declarations, or by a global. Those that a global
entered are listed still. -/
def enteredFields (declarations : List Listing) (vocabulary : Vocabulary) :
    Set (String × String) :=
  {field | ∃ listing ∈ declarations, field ∈ listing.fields} ∪ vocabulary.listedFields

/-! ## Where names come from -/

theorem short_or_template_of_declared {listing : Listing}
    (declared : listing ∈ importListings archives package progress ++ templateListings package) :
    Name.IsShort listing.type ∨ listing.type ∈ package.templates.map Header.Template.name := by
  rcases List.mem_append.mp declared with imported | templated
  · exact .inl (inspected_of_importListings imported).short
  · obtain ⟨template, known, rfl⟩ := List.mem_map.mp templated
    exact .inr (List.mem_map_of_mem known)

/-- A name of a type that is not short is that of a template. -/
theorem short_or_template
    (tabulated : Tabulated (importListings archives package progress ++ templateListings package)
      (globalListings archives package progress) vocabulary) {type : String}
    (known : type ∈ vocabulary.factTypes ∨ vocabulary.hasFields type = true) :
    Name.IsShort type ∨ type ∈ package.templates.map Header.Template.name := by
  rcases known with listed | entered
  · rw [tabulated.factTypes, List.mem_eraseDups, List.mem_map] at listed
    obtain ⟨listing, declared, rfl⟩ := listed
    exact short_or_template_of_declared declared
  · obtain ⟨names, fields⟩ := (Vocabulary.hasFields_iff ..).mp entered
    exact (template_or_inspected tabulated fields).symm.imp_left Inspected.short

/-- A type for which a field was entered has fields. -/
theorem hasFields_of_entered {declarations globals : List Listing}
    (tabulated : Tabulated declarations globals vocabulary) {field : String × String}
    (entered : field ∈ enteredFields declarations vocabulary) :
    vocabulary.hasFields field.1 = true := by
  rw [Vocabulary.hasFields_iff]
  rcases entered with ⟨listing, declared, same, -⟩ | ⟨names, listed, -⟩
  · obtain ⟨names, last⟩ := Listing.last?_isSome_of_mem declared
    refine ⟨names, ?_⟩
    rw [Vocabulary.fields?, same, tabulated.fields, last, Option.some_or]
  · exact ⟨names, listed⟩

/-- The keys of categories are those of the fields that were entered. -/
theorem categoryKeys_eq {declarations globals : List Listing}
    (tabulated : Tabulated declarations globals vocabulary) :
    vocabulary.categoryKeys = Vocabulary.keyOf '' enteredFields declarations vocabulary := by
  ext key
  refine (tabulated.keys key).trans ?_
  rw [← mem_image_keyOf_iff, enteredFields, Set.image_union, Set.mem_union]
  refine or_congr_left ?_
  constructor
  · rintro ⟨listing, declared, member⟩
    obtain ⟨field, entered, same⟩ := (listing.mem_keys_iff key).mp member
    exact ⟨field, ⟨listing, declared, entered⟩, same⟩
  · rintro ⟨field, ⟨listing, declared, entered⟩, same⟩
    exact ⟨listing, declared, (listing.mem_keys_iff key).mpr ⟨field, entered, same⟩⟩

/-- A global is bound to a short name. -/
theorem isShort_of_globalType? {loader : Loader} {reading : Header.Reading} {after : Progress}
    (done : entered loader archives reading = (.ok (), after)) {files : List Mapping.File}
    {identifier type : String}
    (bound : (enterSentences files after.vocabulary).globalType? identifier = some type) :
    Name.IsShort type := by
  rw [globalType?_of_entered done] at bound
  obtain ⟨global, -, rfl⟩ := Option.map_eq_some_iff.mp bound
  exact Name.isShort_short _

/-! ## Names of builds -/

/-- **Where the names of types are short.** The globals are bound to short names, and a name of a
type that is not short is that of a template. The keys of categories are those of the fields that
were entered, for types that have fields. All names of types are short, and every key is cut at its
first dot into the type and the field that it was entered for, if and only if no template has a name
with a dot. -/
theorem names_are_short_iff (loader : Loader) (header : String) (archives : List Archive)
    (files : List Mapping.File) (outcome : Outcome)
    (built : (loader.build header archives files).1 = .ok outcome) :
    ∃ reading, declared header = .ok reading ∧
      let templates := reading.package.templates
      let vocabulary := outcome.vocabulary
      let entered := enteredFields (importListings archives reading.package
        (begun loader reading) ++ templateListings reading.package) vocabulary
      (∀ identifier type, vocabulary.globalType? identifier = some type → Name.IsShort type) ∧
      (∀ type, type ∈ vocabulary.factTypes ∨ vocabulary.hasFields type = true →
        Name.IsShort type ∨ type ∈ templates.map Header.Template.name) ∧
      vocabulary.categoryKeys = Vocabulary.keyOf '' entered ∧
      (∀ field ∈ entered, vocabulary.hasFields field.1 = true) ∧
      (vocabulary.ShortNamed ∧
          (∀ field ∈ entered, Name.cutAtDot (Vocabulary.keyOf field) = field) ↔
        ∀ template ∈ templates, Name.IsShort template.name) := by
  obtain ⟨reading, read, tabulated⟩ := tabulated_of_build built
  obtain ⟨again, after, reread, done, rfl⟩ := entered_of_build built
  obtain rfl := Except.ok.inj (read.symm.trans reread)
  have globals : ∀ identifier type,
      (enterSentences files after.vocabulary).globalType? identifier = some type →
        Name.IsShort type :=
    fun _ _ => isShort_of_globalType? done
  have known := @short_or_template _ _ _ _ tabulated
  refine ⟨reading, read, globals, @known, categoryKeys_eq tabulated,
    fun _ => hasFields_of_entered tabulated, ?_, ?_⟩
  · rintro ⟨short, -⟩ template member
    refine short.factTypes template.name ?_
    have listed : templateListing template ∈
        importListings archives reading.package (begun loader reading) ++
          templateListings reading.package :=
      List.mem_append_right _ (List.mem_map_of_mem member)
    rw [tabulated.factTypes, List.mem_eraseDups]
    exact List.mem_map_of_mem listed
  · intro short
    have all : ∀ type, type ∈ (enterSentences files after.vocabulary).factTypes ∨
        (enterSentences files after.vocabulary).hasFields type = true → Name.IsShort type := by
      intro type listed
      rcases known listed with here | templated
      · exact here
      · obtain ⟨template, member, rfl⟩ := List.mem_map.mp templated
        exact short template member
    refine ⟨⟨fun type listed => all type (.inl listed), fun type entered => all type (.inr entered),
      globals⟩, ?_⟩
    rintro ⟨type, name⟩ entered
    exact (Name.cutAtDot_join_iff type name).mpr
      (all type (.inr (hasFields_of_entered tabulated entered)))

/-- A header with a template whose quoted name holds a dot. -/
def dotted : String :=
  "template \"a.B\"\n int x\nend"

/-- The template is a fact type as it is named, and the key of its field is cut elsewhere. -/
theorem quoted_name_is_not_short :
    ∃ outcome reading, ((ofSettings .default).build dotted [] []).1 = .ok outcome ∧
      declared dotted = .ok reading ∧
      outcome.vocabulary.factTypes = ["a.B"] ∧
      outcome.vocabulary.category? "a.B" "x" = some .numeric ∧
      Name.cutAtDot (Vocabulary.fieldKey "a.B" "x") = ("a", "B.x") ∧
      ¬ outcome.vocabulary.ShortNamed ∧
      ¬ ∀ template ∈ reading.package.templates, Name.IsShort template.name := by
  have made : ((ofSettings .default).build dotted [] []).1.map (fun outcome =>
      (outcome.vocabulary.factTypes, outcome.vocabulary.category? "a.B" "x")) =
        .ok (["a.B"], some .numeric) := by
    decide +kernel
  cases built : ((ofSettings .default).build dotted [] []).1 with
  | error fault =>
      rw [built] at made
      cases made
  | ok outcome =>
      rw [built] at made
      obtain ⟨factTypes, category⟩ := Prod.mk.inj (Except.ok.inj made)
      obtain ⟨reading, read, -, -, -, -, short⟩ :=
        names_are_short_iff (ofSettings .default) dotted [] [] outcome built
      have long : ¬ outcome.vocabulary.ShortNamed := by
        intro named
        have listed : "a.B" ∈ outcome.vocabulary.factTypes := by
          rw [factTypes]
          exact List.mem_singleton_self _
        exact named.factTypes "a.B" listed (by decide)
      refine ⟨outcome, reading, rfl, read, factTypes, category, by decide +kernel, long, ?_⟩
      exact fun all => long (short.mpr all).1

end Loader

end RuleVocabulary
