import RuleVocabulary.Proofs.Registry.Arrival
import RuleVocabulary.Proofs.Subtyping

/-!
# What a category depends on

The category of a type is the first one that fits it (`find?_fits`, `rank_ofType?_le`), and what
fits depends on the names of the types above it alone. So categories are compared without a look at
the searches. A registry embeds in another one if this one finds all that the first one finds, as
types of the same kind with at least the same supertypes (`Embeds`). Then whatever is above a type
in the first registry is, by name, above it in the second one (`Embeds.exists_above`), and a
category that fits there fits here: on the way up categories come to stand earlier in the order in
which they count, never later (`Embeds.rank_ofType?_le`).

Main statements: two registries that embed in each other put every type into the same category, so
the order of declaration does not matter (`category_of_resembling`); and a registry embeds in what
it becomes when an archive arrives whose paths are new to it, so no type loses its category
(`category_rises_with_archive`). For an archive with a path that is not new this fails: the bytes
under the path are replaced.
-/

set_option autoImplicit false

namespace RuleVocabulary

/-! ## The first category that fits -/

namespace Category

/-- The place of a category in the order in which they count. -/
def rank (category : Category) : Nat :=
  all.idxOf category

theorem mem_all (category : Category) : category ∈ all := by
  cases category <;> decide

theorem eq_of_rank_eq {first second : Category} (same : first.rank = second.rank) :
    first = second :=
  (List.idxOf_inj (mem_all first)).mp same

theorem rank_le_unknown (category : Category) : category.rank ≤ unknown.rank := by
  cases category <;> decide

/-- Whether a category fits a type. -/
def fits (registry : Registry) (type : Descriptor) : Category → Bool
  | numeric =>
    (type.isPrimitive && type.name != "boolean") || isSubtype registry type numberType
  | string => isSubtype registry type stringType
  | collection => isSubtype registry type collectionType
  | comparable => isSubtype registry type comparableType
  | unknown => true

/-- The category of a type is the first one that fits. -/
theorem find?_fits (registry : Registry) (type : Descriptor) :
    all.find? (fits registry type) = some (ofType? registry (some type)) := by
  rw [ofType?]
  simp only [all, List.find?_cons, fits]
  generalize (type.isPrimitive && type.name != "boolean") = primitive
  generalize isSubtype registry type numberType = number
  generalize isSubtype registry type stringType = text
  generalize isSubtype registry type collectionType = many
  generalize isSubtype registry type comparableType = ordered
  cases primitive <;> cases number <;> cases text <;> cases many <;> cases ordered <;> rfl

/-- What is found first in a list stands before all else that could be found. -/
theorem idxOf_le_of_find? {α : Type} [DecidableEq α] {elements : List α} {test : α → Bool}
    {found other : α} (first : elements.find? test = some found) (passes : test other = true) :
    elements.idxOf found ≤ elements.idxOf other := by
  have foundPasses := List.find?_some first
  induction elements with
  | nil => cases first
  | cons element elements ih =>
      cases here : test element with
      | true =>
          rw [List.find?_cons_of_pos here] at first
          obtain rfl := Option.some.inj first
          simp
      | false =>
          have later : ∀ one, test one = true → element ≠ one := by
            rintro one passes rfl
            rw [here] at passes
            cases passes
          rw [List.find?_cons_of_neg (by simp [here])] at first
          rw [List.idxOf_cons_ne _ (later found foundPasses),
            List.idxOf_cons_ne _ (later other passes)]
          exact Nat.succ_le_succ (ih first)

/-- A category that fits does not count before the one that is chosen. -/
theorem rank_ofType?_le {registry : Registry} {type : Descriptor} {category : Category}
    (fitting : fits registry type category = true) :
    (ofType? registry (some type)).rank ≤ category.rank :=
  idxOf_le_of_find? (find?_fits registry type) fitting

/-- What fits a type fits another one of the same name and kind that is a subtype of more. -/
theorem fits_of_subtypes {lower upper : Registry} {type other : Descriptor}
    (name : other.name = type.name) (kind : other.kind = type.kind)
    (subtypes : ∀ concept, isSubtype lower type concept = true →
      isSubtype upper other concept = true) {category : Category}
    (fitting : fits lower type category = true) : fits upper other category = true := by
  cases category with
  | numeric =>
      simp only [fits, Descriptor.isPrimitive, name, kind, Bool.or_eq_true] at fitting ⊢
      exact fitting.imp_right (subtypes _)
  | string => exact subtypes _ fitting
  | collection => exact subtypes _ fitting
  | comparable => exact subtypes _ fitting
  | unknown => rfl

end Category

/-! ## Registries that embed in each other -/

namespace Registry

/-- The second registry finds all that the first one finds, as types of the same kind with at least
the same supertypes. -/
structure Embeds (lower upper : Registry) : Prop where
  found : ∀ (name : String) (type : Descriptor), lower.lookup name = .ok (some type) →
    ∃ other, upper.lookup name = .ok (some other) ∧ other.kind = type.kind ∧
      type.allSupertypes ⊆ other.allSupertypes

namespace Embeds

variable {lower upper : Registry} {name concept : String} {type other target : Descriptor}

/-- **What is above a type is, by name, above the type of its name in the other registry.** -/
theorem exists_above (embeds : Embeds lower upper)
    (known : lower.lookup name = .ok (some type)) (found : upper.lookup name = .ok (some other))
    (above : lower.Above type target) :
    ∃ image, upper.Above other image ∧ upper.lookup target.name = .ok (some image) := by
  induction above with
  | refl => exact ⟨other, .refl, by rwa [name_of_lookup known]⟩
  | @tail middle parent below inherits ih =>
      obtain ⟨image, above, looked⟩ := ih
      have here : lower.lookup middle.name = .ok (some middle) :=
        known_of_above (by rwa [name_of_lookup known]) below
      obtain ⟨supertype, member, parentKnown⟩ := inherits
      obtain ⟨same, imageLooked, -, supertypes⟩ := embeds.found _ _ here
      obtain rfl : same = image := by
        rw [imageLooked] at looked
        cases looked
        rfl
      obtain ⟨parentImage, parentLooked, -⟩ := embeds.found _ _ parentKnown
      refine ⟨parentImage, above.tail ⟨supertype, supertypes member, parentLooked⟩, ?_⟩
      rwa [name_of_lookup parentKnown]

/-- A type is a subtype of no less in the other registry. -/
theorem isSubtype (embeds : Embeds lower upper) (known : lower.lookup name = .ok (some type))
    (found : upper.lookup name = .ok (some other))
    (below : RuleVocabulary.isSubtype lower type concept = true) :
    RuleVocabulary.isSubtype upper other concept = true := by
  have typeKnown : lower.lookup type.name = .ok (some type) := by rwa [name_of_lookup known]
  have otherKnown : upper.lookup other.name = .ok (some other) := by rwa [name_of_lookup found]
  obtain ⟨target, above, named⟩ := (Subtyping.isSubtype_iff_exists_above typeKnown).mp below
  obtain ⟨image, imageAbove, looked⟩ := embeds.exists_above known found above
  exact (Subtyping.isSubtype_iff_exists_above otherKnown).mpr
    ⟨image, imageAbove, (name_of_lookup looked).trans named⟩

/-- **No category comes to count later in the other registry.** -/
theorem rank_ofType?_le (embeds : Embeds lower upper)
    (known : lower.lookup name = .ok (some type)) (found : upper.lookup name = .ok (some other)) :
    (Category.ofType? upper (some other)).rank ≤ (Category.ofType? lower (some type)).rank := by
  obtain ⟨same, looked, kind, -⟩ := embeds.found _ _ known
  obtain rfl : same = other := by
    rw [looked] at found
    cases found
    rfl
  have fitting := List.find?_some (Category.find?_fits lower type)
  refine Category.rank_ofType?_le (Category.fits_of_subtypes ?_ kind ?_ fitting)
  · exact (name_of_lookup found).trans (name_of_lookup known).symm
  · exact fun _ below => embeds.isSubtype known found below

end Embeds

end Registry

/-! ## Other orders of declaration -/

/-- The second description is of the same type and kind, and lists the same supertypes, in whatever
order and however often. -/
structure Descriptor.Redeclares (type other : Descriptor) : Prop where
  name : other.name = type.name
  kind : other.kind = type.kind
  supertypes : ∀ supertype, supertype ∈ other.allSupertypes ↔ supertype ∈ type.allSupertypes

namespace Descriptor.Redeclares

theorem refl (type : Descriptor) : type.Redeclares type :=
  ⟨rfl, rfl, fun _ => Iff.rfl⟩

theorem symm {type other : Descriptor} (redeclares : type.Redeclares other) :
    other.Redeclares type :=
  ⟨redeclares.name.symm, redeclares.kind.symm, fun one => (redeclares.supertypes one).symm⟩

theorem of_subset {type other : Descriptor} (name : other.name = type.name)
    (kind : other.kind = type.kind) (lower : other.allSupertypes ⊆ type.allSupertypes)
    (upper : type.allSupertypes ⊆ other.allSupertypes) : type.Redeclares other :=
  ⟨name, kind, fun _ => ⟨fun member => lower member, fun member => upper member⟩⟩

end Descriptor.Redeclares

namespace Registry

/-- Two registries that find the same names, as types that are the same up to the order in which
their supertypes are listed, and how often. -/
structure Resembles (first second : Registry) : Prop where
  known : ∀ name, (∃ type, first.lookup name = .ok (some type)) ↔
    ∃ other, second.lookup name = .ok (some other)
  alike : ∀ name type other, first.lookup name = .ok (some type) →
    second.lookup name = .ok (some other) → type.Redeclares other

namespace Resembles

variable {first second : Registry}

theorem symm (resembles : first.Resembles second) : second.Resembles first where
  known name := (resembles.known name).symm
  alike name type other known found := (resembles.alike name other type found known).symm

theorem embeds (resembles : first.Resembles second) : first.Embeds second where
  found name type known := by
    obtain ⟨other, looked⟩ := (resembles.known name).mp ⟨type, known⟩
    have redeclares := resembles.alike name type other known looked
    exact ⟨other, looked, redeclares.kind, fun one member => (redeclares.supertypes one).mpr member⟩

end Resembles

theorem find?_redeclared {types others : List Descriptor}
    (redeclared : List.Forall₂ Descriptor.Redeclares types others) (name : String) :
    Option.Rel Descriptor.Redeclares (types.find? (·.name = name))
      (others.find? (·.name = name)) := by
  induction redeclared with
  | nil => exact .none
  | @cons one another types others redeclares _ ih =>
      by_cases same : one.name = name
      · rw [List.find?_cons_of_pos (by simpa using same),
          List.find?_cons_of_pos (by simpa [redeclares.name] using same)]
        exact .some redeclares
      · rw [List.find?_cons_of_neg (by simpa using same),
          List.find?_cons_of_neg (by simpa [redeclares.name] using same)]
        exact ih

/-- Where each definition is redeclared and the same entries are registered, so is what is found. -/
theorem exists_redeclared {settings : Settings} {changes others : List Change}
    {first second : Registry} (reflects : Reflects settings changes first)
    (reflectsOthers : Reflects settings others second)
    (redeclared : List.Forall₂ Descriptor.Redeclares (definitions changes) (definitions others))
    (same : registered changes = registered others) {name : String} {type : Descriptor}
    (known : first.lookup name = .ok (some type)) :
    ∃ other, second.lookup name = .ok (some other) ∧ type.Redeclares other := by
  induction name using lookup_induction generalizing type with
  | plain name brackets =>
      have plain := Name.element?_eq_none_iff.mp brackets
      have related := find?_redeclared (List.rel_append
        (List.forall₂_same.mpr fun type _ => .refl type) redeclared :
          List.Forall₂ _ (Ambient.types ++ definitions changes) _) name
      rw [lookup_of_reflects reflects plain] at known
      rw [lookup_of_reflects reflectsOthers plain, ← same]
      generalize (Ambient.types ++ definitions changes).find? (·.name = name) = listed
        at known related
      generalize (Ambient.types ++ definitions others).find? (·.name = name) = image at related ⊢
      cases related with
      | some redeclares =>
          cases known
          exact ⟨_, rfl, redeclares⟩
      | none => exact ⟨type, known, .refl type⟩
  | array name element brackets ih =>
      rw [lookup_array brackets] at known ⊢
      split at known
      · rename_i inner looked
        obtain ⟨other, found, -⟩ := ih looked
        cases known
        exact ⟨.bare name .array, by rw [found], .refl _⟩
      · cases known
      · cases known

/-- Definitions that list their supertypes in another order make a registry that resembles. -/
theorem resembles_of_redeclared (settings : Settings) {changes others : List Change}
    (redeclared : List.Forall₂ Descriptor.Redeclares (definitions changes) (definitions others))
    (same : registered changes = registered others) :
    ((ofSettings settings).changed changes).Resembles ((ofSettings settings).changed others) := by
  have reflects := reflects_changed settings changes
  have reflectsOthers := reflects_changed settings others
  have back : List.Forall₂ Descriptor.Redeclares (definitions others) (definitions changes) :=
    (redeclared.imp fun _ _ redeclares => redeclares.symm).flip
  refine ⟨fun name => ⟨?_, ?_⟩, ?_⟩
  · rintro ⟨type, known⟩
    obtain ⟨other, found, -⟩ := exists_redeclared reflects reflectsOthers redeclared same known
    exact ⟨other, found⟩
  · rintro ⟨other, found⟩
    obtain ⟨type, known, -⟩ := exists_redeclared reflectsOthers reflects back same.symm found
    exact ⟨type, known⟩
  · intro name type other known found
    obtain ⟨image, looked, redeclares⟩ :=
      exists_redeclared reflects reflectsOthers redeclared same known
    rw [looked] at found
    cases found
    exact redeclares

end Registry

open Registry Subtyping

/-- **The order of declaration does not matter.** Two registries that find the same names, as types
of the same kind with the same supertypes in any order and with any repeats, put the types of a name
into the same category, whatever cycles, unknown names and unreadable descriptions there are. They
have the same subtypes, and so the loops over pending types end with the same answers, although
they come to the types in different orders. -/
theorem category_of_resembling (first second : Registry) (resembles : first.Resembles second)
    (name : String) (type other : Descriptor) (known : first.lookup name = .ok (some type))
    (found : second.lookup name = .ok (some other)) :
    Category.ofType? first (some type) = Category.ofType? second (some other) ∧
    ∀ concept, isSubtype first type concept = isSubtype second other concept ∧
      ∀ answer, Ends first concept [type] [] answer ↔ Ends second concept [other] [] answer := by
  have up := resembles.embeds
  have down := resembles.symm.embeds
  have subtypes : ∀ concept, isSubtype first type concept = isSubtype second other concept := by
    intro concept
    exact Bool.eq_iff_iff.mpr ⟨up.isSubtype known found, down.isSubtype found known⟩
  refine ⟨?_, fun concept => ⟨subtypes concept, fun answer => ?_⟩⟩
  · exact Category.eq_of_rank_eq
      (Nat.le_antisymm (down.rank_ofType?_le found known) (up.rank_ofType?_le known found))
  · rw [ends_iff (by rwa [name_of_lookup known]), ends_iff (by rwa [name_of_lookup found]),
      subtypes concept]

namespace Subtyping

/-- The class `lower`, with its supertypes in another order, one of them twice and the universal
base among them. -/
def lowerAnew : Descriptor :=
  ⟨"a.Lower", .classType, ["a.Upper", universalBase, "a.Broken", "a.Upper", "a.Missing"], []⟩

def upperAnew : Descriptor := ⟨"a.Upper", .interface, [numberType, "a.Lower", numberType], []⟩

/-- The registry `troubled`, with its types declared like this. -/
def troubledAnew : Registry :=
  (ofSettings .default).changed
    [.define lowerAnew, .define upperAnew, .register [⟨"a/Broken.type.json", []⟩]]

end Subtyping

/-- A class that leads back to itself stays numeric when its supertypes are listed anew. -/
theorem category_of_troubledAnew :
    troubled.Resembles troubledAnew ∧ troubled.lookup "a.Lower" = .ok (some lower) ∧
      troubledAnew.lookup "a.Lower" = .ok (some lowerAnew) ∧
      Category.ofType? troubledAnew (some lowerAnew) = .numeric ∧
      Ends troubledAnew stringType [lowerAnew] [] false := by
  have resembles : troubled.Resembles troubledAnew := by
    have redeclared : List.Forall₂ Descriptor.Redeclares [lower, upper] [lowerAnew, upperAnew] :=
      .cons (.of_subset rfl rfl (by decide) (by decide))
        (.cons (.of_subset rfl rfl (by decide) (by decide)) .nil)
    exact resembles_of_redeclared .default redeclared rfl
  have computed : troubled.lookup "a.Lower" = .ok (some lower) ∧
      troubledAnew.lookup "a.Lower" = .ok (some lowerAnew) ∧
      Category.ofType? troubled (some lower) = .numeric ∧
      isSubtype troubled lower stringType = false := by decide +kernel
  obtain ⟨known, found, numeric, noString⟩ := computed
  obtain ⟨same, subtypes⟩ :=
    category_of_resembling troubled troubledAnew resembles "a.Lower" lower lowerAnew known found
  obtain ⟨-, ends⟩ := subtypes stringType
  exact ⟨resembles, known, found, same ▸ numeric,
    (ends false).mp ((ends_iff known).mpr noString.symm)⟩

/-! ## Archives that arrive -/

namespace Registry

variable {before after : Registry} {name : String} {type : Descriptor}

theorem Below.embeds (below : Below before after) : Embeds before after where
  found name type known :=
    ⟨type, below.lookup name type known, rfl, List.Subset.refl type.allSupertypes⟩

/-- However many archives arrive, no type comes to have a category that counts later. -/
theorem rank_ofType?_le_of_arrives {archives : List (List Archive.Entry)}
    (arrives : before.Arrives archives after) (known : before.lookup name = .ok (some type)) :
    (Category.ofType? after (some type)).rank ≤ (Category.ofType? before (some type)).rank := by
  have below := below_of_arrives arrives
  exact below.embeds.rank_ofType?_le known (below.lookup name type known)

end Registry

/-- **Categories only move up as archives arrive.** Where the paths of an archive are new to a
registry, each name still has the type that it had. The type is a subtype of all that it was a
subtype of, its category is the same or one that counts earlier, and it is not lost. -/
theorem category_rises_with_archive (registry : Registry) (entries : List Archive.Entry)
    (new : registry.IsNew entries) (name : String) (type : Descriptor)
    (known : registry.lookup name = .ok (some type)) :
    (registry.register entries).lookup name = .ok (some type) ∧
    (∀ concept, isSubtype registry type concept = true →
      isSubtype (registry.register entries) type concept = true) ∧
    (Category.ofType? (registry.register entries) (some type)).rank ≤
      (Category.ofType? registry (some type)).rank ∧
    (Category.ofType? registry (some type) ≠ .unknown →
      Category.ofType? (registry.register entries) (some type) ≠ .unknown) := by
  have below := below_register new
  have still := below.lookup name type known
  have rises := below.embeds.rank_ofType?_le known still
  refine ⟨still, fun concept => below.embeds.isSubtype known still, rises, ?_⟩
  intro categorized lost
  rw [lost] at rises
  have last := Category.rank_le_unknown (Category.ofType? registry (some type))
  exact categorized (Category.eq_of_rank_eq (Nat.le_antisymm last rises))

namespace Subtyping

/-- A class that can be ordered, with a supertype that is not known yet. -/
def waiting : Descriptor :=
  ⟨"a.Waiting", .classType, ["a.Missing", comparableType], []⟩

/-- An archive that describes this supertype, and something that cannot be read. -/
def arriving : List Archive.Entry :=
  [⟨"a/Missing.type.json", Descriptor.stored ⟨"a.Missing", .classType, [numberType], []⟩⟩,
    ⟨"a/Broken.type.json", []⟩]

end Subtyping

/-- A class that could be ordered turns out to be numeric. -/
theorem category_of_waiting :
    let registry := (ofSettings .default).changed [.define waiting]
    registry.IsNew arriving ∧ registry.lookup "a.Waiting" = .ok (some waiting) ∧
      Category.ofType? registry (some waiting) = .comparable ∧
      (registry.register arriving).lookup "a.Waiting" = .ok (some waiting) ∧
      Category.ofType? (registry.register arriving) (some waiting) = .numeric := by
  intro registry
  have computed : (∀ entry ∈ arriving, registry.resources[entry.path]? = none) ∧
      registry.lookup "a.Waiting" = .ok (some waiting) ∧
      Category.ofType? registry (some waiting) = .comparable ∧
      Category.ofType? (registry.register arriving) (some waiting) = .numeric := by
    decide +kernel
  obtain ⟨new, known, ordered, numeric⟩ := computed
  obtain ⟨still, -⟩ := category_rises_with_archive registry arriving new "a.Waiting" waiting known
  exact ⟨new, known, ordered, still, numeric⟩

end RuleVocabulary
