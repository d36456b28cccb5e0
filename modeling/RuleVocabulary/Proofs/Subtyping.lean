import Mathlib.Data.Finset.Card
import RuleVocabulary.Category
import RuleVocabulary.Proofs.Inspection.Supertypes
import RuleVocabulary.Proofs.Registry.Changes

/-!
# Subtypes are what lies below

Whether a type is a subtype of another one is found out by a search upwards that leaves out the
types it has seen. Nothing forbids that the lines of types above a type run into themselves, into
a name that nobody knows, or into one whose description cannot be read. A type that has been seen
is settled once all that it inherits from has been seen too (`Settles`), and the types that are not
settled yet are those on the way to the present call. So a search that finds nothing has seen all
there is above (`answers_searchFrom`).

Main statement: a type is a subtype of exactly the names of the types that are above it, and the
search never comes to the bound on its depth (`isSubtype_iff_above`).
-/

set_option autoImplicit false

namespace RuleVocabulary

namespace Subtyping

variable {registry : Registry} {concept : String} {start type : Descriptor} {path : List String}

theorem mem_parents_iff {parent : Descriptor} :
    parent ∈ parents registry type ↔ registry.Inherits type parent := by
  rw [parents, List.mem_filterMap]
  refine exists_congr fun supertype => and_congr_right fun _ => ?_
  cases registry.lookup supertype with
  | error fault => simp
  | ok found => simp

/-! ## What a search has seen -/

/-- What a search adds to the types it has seen: none of them is what it looks for, and all that
they inherit from has been seen as well. -/
structure Settles (registry : Registry) (concept : String) (before after : List String) : Prop where
  kept : before ⊆ after
  settled : ∀ name ∈ after, name ∉ before → ∀ type, registry.lookup name = .ok (some type) →
    name ≠ concept ∧ ∀ parent, registry.Inherits type parent → parent.name ∈ after

theorem Settles.refl (seen : List String) : Settles registry concept seen seen where
  kept := List.Subset.refl seen
  settled _ member new := absurd member new

theorem Settles.trans {before between after : List String}
    (first : Settles registry concept before between)
    (second : Settles registry concept between after) :
    Settles registry concept before after where
  kept := List.Subset.trans first.kept second.kept
  settled := by
    intro name member new type known
    by_cases early : name ∈ between
    · obtain ⟨other, above⟩ := first.settled name early new type known
      exact ⟨other, fun parent inherits => second.kept (above parent inherits)⟩
    · exact second.settled name member early type known

/-- With all that a type inherits from, the type itself is settled. -/
theorem Settles.of_parents {before after : List String}
    (known : registry.lookup type.name = .ok (some type)) (other : type.name ≠ concept)
    (settles : Settles registry concept (type.name :: before) after)
    (passed : ∀ parent ∈ parents registry type, parent.name ∈ after) :
    Settles registry concept before after where
  kept := List.subset_of_cons_subset settles.kept
  settled := by
    intro name member new found looked
    by_cases same : name = type.name
    · subst same
      rw [known] at looked
      cases looked
      exact ⟨other, fun parent inherits => passed parent (mem_parents_iff.mpr inherits)⟩
    · exact settles.settled name member (List.not_mem_cons_of_ne_of_not_mem same new) found looked

/-- What a search from some types comes to: it has found what it looks for above one of them, or
it has seen them all and settled what it has seen. -/
inductive Answers (registry : Registry) (concept : String) (starts : List Descriptor)
    (before : List String) : Search → Prop where
  | found {origin other : Descriptor} {seen : List String} (member : origin ∈ starts)
      (above : registry.Above origin other) (named : other.name = concept) :
      Answers registry concept starts before ⟨true, seen⟩
  | missed {seen : List String} (settles : Settles registry concept before seen)
      (passed : ∀ origin ∈ starts, origin.name ∈ seen) :
      Answers registry concept starts before ⟨false, seen⟩

/-! ## The search -/

/-- A search that has found what it looks for goes no further. -/
theorem searchFrom_of_found {search : Search} (found : search.found = true) (fuel : Nat) :
    searchFrom registry concept fuel type search = search := by
  cases fuel with
  | zero => rfl
  | succ fuel => rw [searchFrom, if_pos found]

theorem foldl_of_found {search : Search} (found : search.found = true) (fuel : Nat)
    (types : List Descriptor) :
    types.foldl (fun search parent => searchFrom registry concept fuel parent search) search =
      search := by
  induction types with
  | nil => rfl
  | cons type types ih => rw [List.foldl_cons, searchFrom_of_found found, ih]

/-- If the searches from single types come to an answer, so does going through several types. -/
theorem answers_foldl {fuel : Nat} {types : List Descriptor}
    (calls : ∀ type ∈ types, ∀ seen, path ⊆ seen →
      Answers registry concept [type] seen (searchFrom registry concept fuel type ⟨false, seen⟩))
    {seen : List String} (within : path ⊆ seen) :
    Answers registry concept types seen
      (types.foldl (fun search parent => searchFrom registry concept fuel parent search)
        ⟨false, seen⟩) := by
  induction types generalizing seen with
  | nil => exact .missed (.refl seen) (by simp)
  | cons type types ih =>
      rw [List.foldl_cons]
      have first := calls type (List.mem_cons_self ..) seen within
      generalize searchFrom registry concept fuel type ⟨false, seen⟩ = reached at first
      cases first with
      | found member above named =>
          obtain rfl := List.mem_singleton.mp member
          rw [foldl_of_found rfl]
          exact .found (List.mem_cons_self ..) above named
      | @missed between settles passed =>
          have rest := ih (fun other member => calls other (List.mem_cons_of_mem _ member))
            (List.Subset.trans within settles.kept)
          generalize types.foldl (fun search parent =>
            searchFrom registry concept fuel parent search) ⟨false, between⟩ = last at rest
          cases rest with
          | found member above named => exact .found (List.mem_cons_of_mem _ member) above named
          | missed later passedLater =>
              refine .missed (settles.trans later) ?_
              intro origin member
              rcases List.mem_cons.mp member with rfl | behind
              · exact later.kept (passed origin (List.mem_singleton_self origin))
              · exact passedLater origin behind

/-- **A search finds what is above its start, or sees all of it.** -/
theorem answers_searchFrom (begins : registry.lookup start.name = .ok (some start)) {fuel : Nat}
    {seen : List String} (entered : registry.Nested start path type) (within : path ⊆ seen)
    (enough : registry.height ≤ fuel + path.length) :
    Answers registry concept [type] seen
      (searchFrom registry concept fuel type ⟨false, seen⟩) := by
  induction fuel generalizing path type seen with
  | zero =>
      have short := entered.length_lt_height begins
      omega
  | succ fuel ih =>
      rw [searchFrom, if_neg (by simp)]
      by_cases named : type.name = concept
      · rw [if_pos named]
        exact .found (List.mem_singleton_self type) .refl named
      rw [if_neg named]
      by_cases old : type.name ∈ seen
      · rw [if_pos old]
        exact .missed (.refl seen) (by simpa using old)
      rw [if_neg old]
      have new : type.name ∉ path := fun earlier => old (within earlier)
      have searched : Answers registry concept (parents registry type) (type.name :: seen)
          ((parents registry type).foldl (fun search parent =>
            searchFrom registry concept fuel parent search) ⟨false, type.name :: seen⟩) := by
        have inside := List.cons_subset_cons type.name within
        refine answers_foldl ?_ inside
        intro parent member seen within
        refine ih (entered.step new (mem_parents_iff.mp member)) within ?_
        rw [List.length_cons]
        omega
      generalize (parents registry type).foldl (fun search parent =>
        searchFrom registry concept fuel parent search) ⟨false, type.name :: seen⟩ = reached
        at searched
      cases searched with
      | found member above named =>
          have inherits := mem_parents_iff.mp member
          exact .found (List.mem_singleton_self type) (.head inherits above) named
      | missed settles passed =>
          refine .missed (.of_parents (entered.known begins) named settles passed) ?_
          intro origin member
          obtain rfl := List.mem_singleton.mp member
          exact settles.kept (List.mem_cons_self ..)

/-- If single searches forget nothing that they have seen, neither does going through types. -/
theorem seen_subset_foldl {fuel : Nat}
    (calls : ∀ (type : Descriptor) (search : Search),
      search.seen ⊆ (searchFrom registry concept fuel type search).seen)
    (types : List Descriptor) (search : Search) :
    search.seen ⊆ (types.foldl (fun search parent =>
      searchFrom registry concept fuel parent search) search).seen := by
  induction types generalizing search with
  | nil => exact List.Subset.refl search.seen
  | cons type types ih => exact List.Subset.trans (calls type search) (ih _)

/-- A search forgets nothing that it has seen. -/
theorem seen_subset_searchFrom (fuel : Nat) (type : Descriptor) (search : Search) :
    search.seen ⊆ (searchFrom registry concept fuel type search).seen := by
  induction fuel generalizing type search with
  | zero => exact List.Subset.refl _
  | succ fuel ih =>
      rw [searchFrom]
      split
      · exact List.Subset.refl _
      split
      · exact List.Subset.refl _
      split
      · exact List.Subset.refl _
      · exact List.Subset.trans (List.subset_cons_self type.name search.seen)
          (seen_subset_foldl ih _ { search with seen := type.name :: search.seen })

/-- Two bounds that agree on single searches agree on going through types. -/
theorem foldl_searchFrom_congr {fuel more : Nat} {types : List Descriptor}
    (agree : ∀ type ∈ types, ∀ search : Search, path ⊆ search.seen →
      searchFrom registry concept more type search = searchFrom registry concept fuel type search)
    {search : Search} (within : path ⊆ search.seen) :
    types.foldl (fun search parent => searchFrom registry concept more parent search) search =
      types.foldl (fun search parent => searchFrom registry concept fuel parent search) search := by
  induction types generalizing search with
  | nil => rfl
  | cons type types ih =>
      rw [List.foldl_cons, List.foldl_cons, agree type (List.mem_cons_self ..) search within]
      exact ih (fun other member => agree other (List.mem_cons_of_mem _ member))
        (List.Subset.trans within (seen_subset_searchFrom fuel type search))

/-- More than the bound on its depth changes nothing about a search. -/
theorem searchFrom_of_height_le (begins : registry.lookup start.name = .ok (some start))
    {fuel more : Nat} {search : Search} (entered : registry.Nested start path type)
    (within : path ⊆ search.seen) (enough : registry.height ≤ fuel + path.length)
    (enoughMore : registry.height ≤ more + path.length) :
    searchFrom registry concept more type search =
      searchFrom registry concept fuel type search := by
  induction fuel generalizing path type search more with
  | zero =>
      have short := entered.length_lt_height begins
      omega
  | succ fuel ih =>
      have short := entered.length_lt_height begins
      obtain ⟨more, rfl⟩ := Nat.exists_eq_add_of_lt (show 0 < more by omega)
      rw [Nat.zero_add, searchFrom, searchFrom]
      by_cases old : type.name ∈ search.seen
      · simp only [if_pos old]
      have new : type.name ∉ path := fun earlier => old (within earlier)
      have agree : ∀ parent ∈ parents registry type, ∀ search : Search,
          type.name :: path ⊆ search.seen → searchFrom registry concept more parent search =
            searchFrom registry concept fuel parent search := by
        intro parent member search within
        refine ih (entered.step new (mem_parents_iff.mp member)) within ?_ ?_ <;>
          rw [List.length_cons] <;> omega
      rw [foldl_searchFrom_congr agree
        (show _ ⊆ (Search.mk search.found (type.name :: search.seen)).seen from
          List.cons_subset_cons _ within)]

/-- What is settled from the start on holds all that is above. -/
theorem Settles.mem_of_above {seen : List String} {other : Descriptor}
    (settles : Settles registry concept [] seen) (begins : start.name ∈ seen)
    (known : registry.lookup start.name = .ok (some start)) (above : registry.Above start other) :
    other.name ∈ seen ∧ registry.lookup other.name = .ok (some other) := by
  induction above with
  | refl => exact ⟨begins, known⟩
  | tail _ inherits ih =>
      obtain ⟨member, looked⟩ := ih
      exact ⟨(settles.settled _ member List.not_mem_nil _ looked).2 _ inherits, inherits.known⟩

/-- What a search answers that has seen nothing before. -/
theorem Answers.found_iff {search : Search}
    (known : registry.lookup type.name = .ok (some type))
    (answers : Answers registry concept [type] [] search) :
    search.found = true ↔ ∃ other, registry.Above type other ∧ other.name = concept := by
  cases answers with
  | found member above named =>
      obtain rfl := List.mem_singleton.mp member
      exact ⟨fun _ => ⟨_, above, named⟩, fun _ => rfl⟩
  | missed settles passed =>
      refine ⟨fun found => absurd found (by simp), ?_⟩
      rintro ⟨other, above, named⟩
      obtain ⟨member, looked⟩ :=
        settles.mem_of_above (passed type (List.mem_singleton_self type)) known above
      exact absurd named (settles.settled _ member List.not_mem_nil _ looked).1

/-- A type is a subtype of the names of the types above it. -/
theorem isSubtype_iff_exists_above (known : registry.lookup type.name = .ok (some type)) :
    isSubtype registry type concept = true ↔
      ∃ other, registry.Above type other ∧ other.name = concept :=
  Answers.found_iff known (answers_searchFrom known .start (List.Subset.refl _) (Nat.le_refl _))

/-! ## A list of pending types -/

/-- The search as a loop over types that are pending, of which the one added last is looked at
first: what it answers when it ends. -/
inductive Ends (registry : Registry) (concept : String) :
    (pending : List Descriptor) → (seen : List String) → Bool → Prop where
  | none {seen : List String} : Ends registry concept [] seen false
  | found {type : Descriptor} {pending : List Descriptor} {seen : List String}
      (named : type.name = concept) : Ends registry concept (type :: pending) seen true
  | skip {type : Descriptor} {pending : List Descriptor} {seen : List String} {answer : Bool}
      (other : type.name ≠ concept) (old : type.name ∈ seen)
      (rest : Ends registry concept pending seen answer) :
      Ends registry concept (type :: pending) seen answer
  | enter {type : Descriptor} {pending : List Descriptor} {seen : List String} {answer : Bool}
      (other : type.name ≠ concept) (new : type.name ∉ seen)
      (rest : Ends registry concept ((parents registry type).reverse ++ pending)
        (type.name :: seen) answer) :
      Ends registry concept (type :: pending) seen answer

theorem known_of_mem_pending {pending : List Descriptor}
    (known : ∀ one ∈ pending, registry.lookup one.name = .ok (some one)) :
    ∀ one ∈ (parents registry type).reverse ++ pending,
      registry.lookup one.name = .ok (some one) := by
  intro one member
  rcases List.mem_append.mp member with parent | earlier
  · exact (mem_parents_iff.mp (List.mem_reverse.mp parent)).known
  · exact known one earlier

/-- The loop answers as a search does. -/
theorem Ends.exists_answers {pending : List Descriptor} {seen : List String} {answer : Bool}
    (ends : Ends registry concept pending seen answer)
    (known : ∀ one ∈ pending, registry.lookup one.name = .ok (some one)) :
    ∃ after, Answers registry concept pending seen ⟨answer, after⟩ := by
  induction ends with
  | @none seen => exact ⟨seen, .missed (.refl seen) (by simp)⟩
  | @found type pending seen named => exact ⟨seen, .found (List.mem_cons_self ..) .refl named⟩
  | skip other old rest ih =>
      obtain ⟨after, answers⟩ := ih fun one member => known one (List.mem_cons_of_mem _ member)
      refine ⟨after, ?_⟩
      cases answers with
      | found member above named => exact .found (List.mem_cons_of_mem _ member) above named
      | missed settles passed =>
          refine .missed settles fun origin member => ?_
          rcases List.mem_cons.mp member with rfl | behind
          · exact settles.kept old
          · exact passed origin behind
  | enter other new rest ih =>
      have here := known _ (List.mem_cons_self ..)
      obtain ⟨after, answers⟩ := ih
        (known_of_mem_pending fun one member => known one (List.mem_cons_of_mem _ member))
      refine ⟨after, ?_⟩
      cases answers with
      | found member above named =>
          rcases List.mem_append.mp member with parent | earlier
          · have inherits := mem_parents_iff.mp (List.mem_reverse.mp parent)
            exact .found (List.mem_cons_self ..) (.head inherits above) named
          · exact .found (List.mem_cons_of_mem _ earlier) above named
      | missed settles passed =>
          refine .missed (.of_parents here other settles fun parent member => ?_) ?_
          · exact passed parent (List.mem_append_left _ (List.mem_reverse.mpr member))
          · intro origin member
            rcases List.mem_cons.mp member with rfl | earlier
            · exact settles.kept (List.mem_cons_self ..)
            · exact passed origin (List.mem_append_right _ earlier)

/-- The names that types can inherit from: the universal base, and what the types declare that are
ambient or stored. Arrays declare nothing, so there are no more, however many arrays are known. -/
def namesAbove (registry : Registry) : List String :=
  universalBase :: (registry.ambient.toList.map Prod.snd ++ registry.resources.toList.filterMap
    fun stored => (Descriptor.ofJson stored.2).toOption).flatMap Descriptor.allSupertypes

theorem mem_namesAbove {parent : Descriptor}
    (known : registry.lookup type.name = .ok (some type))
    (inherits : registry.Inherits type parent) :
    parent.name ∈ namesAbove registry := by
  cases array : Name.isArray type.name with
  | true =>
      rw [Registry.base_of_array known array inherits]
      exact List.mem_cons_self ..
  | false =>
      obtain ⟨supertype, member, found⟩ := inherits
      rw [Registry.name_of_lookup found]
      refine List.mem_cons_of_mem _ (List.mem_flatMap.mpr ⟨type, ?_, member⟩)
      rcases Registry.ambient_or_stored_of_lookup array known with
        ambient | ⟨bytes, stored, decoded⟩
      · exact List.mem_append_left _ (List.mem_map.mpr
          ⟨(type.name, type), Std.ExtTreeMap.mem_toList_iff_getElem?_eq_some.mpr ambient, rfl⟩)
      · refine List.mem_append_right _ (List.mem_filterMap.mpr
          ⟨(_, bytes), Std.ExtTreeMap.mem_toList_iff_getElem?_eq_some.mpr stored, ?_⟩)
        rw [decoded]
        rfl

/-- How many of some names have not been seen. -/
def unseen (names seen : List String) : Nat :=
  (names.toFinset \ seen.toFinset).card

theorem unseen_cons_lt {names seen : List String} {name : String} (member : name ∈ names)
    (new : name ∉ seen) : unseen names (name :: seen) < unseen names seen := by
  rw [unseen, List.toFinset_cons, Finset.sdiff_insert]
  refine Finset.card_erase_lt_of_mem (Finset.mem_sdiff.mpr ⟨?_, ?_⟩)
  · exact List.mem_toFinset.mpr member
  · exact fun old => new (List.mem_toFinset.mp old)

/-- **The loop ends**: each round either sees a new name or makes the list of pending types
shorter. -/
theorem exists_ends {names : List String} (closed : namesAbove registry ⊆ names)
    {pending : List Descriptor} {seen : List String}
    (within : ∀ one ∈ pending, one.name ∈ names)
    (known : ∀ one ∈ pending, registry.lookup one.name = .ok (some one)) :
    ∃ answer, Ends registry concept pending seen answer := by
  induction left : unseen names seen using Nat.strongRecOn generalizing pending seen with
  | _ left ih =>
      induction pending with
      | nil => exact ⟨false, .none⟩
      | cons type pending shorter =>
          have here := known type (List.mem_cons_self ..)
          by_cases named : type.name = concept
          · exact ⟨true, .found named⟩
          by_cases old : type.name ∈ seen
          · obtain ⟨answer, rest⟩ := shorter
              (fun one member => within one (List.mem_cons_of_mem _ member))
              (fun one member => known one (List.mem_cons_of_mem _ member))
            exact ⟨answer, .skip named old rest⟩
          · have fewer := unseen_cons_lt (within type (List.mem_cons_self ..)) old
            have allWithin : ∀ one ∈ (parents registry type).reverse ++ pending,
                one.name ∈ names := by
              intro one member
              rcases List.mem_append.mp member with parent | earlier
              · have inherits := mem_parents_iff.mp (List.mem_reverse.mp parent)
                exact closed (mem_namesAbove here inherits)
              · exact within one (List.mem_cons_of_mem _ earlier)
            obtain ⟨answer, rest⟩ := ih _ (left ▸ fewer) allWithin
              (known_of_mem_pending fun one member => known one (List.mem_cons_of_mem _ member)) rfl
            exact ⟨answer, .enter named old rest⟩

/-- The loop started with one type ends with what a search answers, and with nothing else. -/
theorem ends_iff (known : registry.lookup type.name = .ok (some type)) {answer : Bool} :
    Ends registry concept [type] [] answer ↔ answer = isSubtype registry type concept := by
  have same : ∀ answer, Ends registry concept [type] [] answer →
      answer = isSubtype registry type concept := by
    intro answer ends
    obtain ⟨after, answers⟩ := ends.exists_answers (by simpa using known)
    exact Bool.eq_iff_iff.mpr
      ((answers.found_iff known).trans (isSubtype_iff_exists_above known).symm)
  refine ⟨same answer, ?_⟩
  rintro rfl
  have ends : ∃ answer, Ends registry concept [type] [] answer :=
    exists_ends (List.subset_cons_self type.name (namesAbove registry)) (by simp)
      (by simpa using known)
  obtain ⟨answer, ends⟩ := ends
  rwa [← same answer ends]

/-! ## Subtypes -/

/-- A type is its own subtype. -/
theorem isSubtype_self (known : registry.lookup type.name = .ok (some type)) :
    isSubtype registry type type.name = true :=
  (isSubtype_iff_exists_above known).mpr ⟨type, .refl, rfl⟩

/-- What a type is a subtype of, it is by name or through a supertype that is known. -/
theorem isSubtype_iff_parent (known : registry.lookup type.name = .ok (some type)) :
    isSubtype registry type concept = true ↔ type.name = concept ∨
      ∃ supertype ∈ type.allSupertypes, ∃ parent, registry.lookup supertype = .ok (some parent) ∧
        isSubtype registry parent concept = true := by
  rw [isSubtype_iff_exists_above known]
  constructor
  · rintro ⟨other, above, named⟩
    rcases Relation.ReflTransGen.cases_head above with rfl | ⟨parent, inherits, higher⟩
    · exact .inl named
    · have looked := inherits.known
      obtain ⟨supertype, member, found⟩ := inherits
      exact .inr ⟨supertype, member, parent, found,
        (isSubtype_iff_exists_above looked).mpr ⟨other, higher, named⟩⟩
  · rintro (named | ⟨supertype, member, parent, found, higher⟩)
    · exact ⟨type, .refl, named⟩
    · have inherits : registry.Inherits type parent := ⟨supertype, member, found⟩
      obtain ⟨other, above, named⟩ := (isSubtype_iff_exists_above inherits.known).mp higher
      exact ⟨other, .head inherits above, named⟩

/-- Subtypes of a type that is found by name are handed on. -/
theorem isSubtype_trans (known : registry.lookup type.name = .ok (some type)) {between : String}
    {middle : Descriptor} (looked : registry.lookup between = .ok (some middle))
    (lower : isSubtype registry type between = true)
    (upper : isSubtype registry middle concept = true) :
    isSubtype registry type concept = true := by
  obtain ⟨other, above, rfl⟩ := (isSubtype_iff_exists_above known).mp lower
  have same : other = middle := by
    rw [Registry.known_of_above known above] at looked
    cases looked
    rfl
  subst same
  rw [← Registry.name_of_lookup looked] at looked
  obtain ⟨last, higher, named⟩ := (isSubtype_iff_exists_above looked).mp upper
  exact (isSubtype_iff_exists_above known).mpr ⟨last, above.trans higher, named⟩

end Subtyping

open Subtyping

/-- **A type is a subtype of exactly the names of the types above it**, whatever cycles, unknown
names and unreadable descriptions there are. The search ends by itself: a greater bound on its depth
changes nothing, and the loop over pending types ends with the same answer. Every type is its own
subtype, subtypes are handed on through lookups, and a supertype that is not found hides only what
lies behind it, as all the others are still followed. -/
theorem isSubtype_iff_above (registry : Registry) (name concept : String) (type : Descriptor)
    (looked : registry.lookup name = .ok (some type)) :
    (isSubtype registry type concept = true ↔
      ∃ other, registry.Above type other ∧ other.name = concept) ∧
    (∀ bound, registry.height ≤ bound → searchFrom registry concept bound type ⟨false, []⟩ =
      searchFrom registry concept registry.height type ⟨false, []⟩) ∧
    (∀ answer, Ends registry concept [type] [] answer ↔
      answer = isSubtype registry type concept) ∧
    isSubtype registry type name = true ∧
    (∀ between middle, registry.lookup between = .ok (some middle) →
      isSubtype registry type between = true → isSubtype registry middle concept = true →
      isSubtype registry type concept = true) ∧
    (isSubtype registry type concept = true ↔ type.name = concept ∨
      ∃ supertype ∈ type.allSupertypes, ∃ parent, registry.lookup supertype = .ok (some parent) ∧
        isSubtype registry parent concept = true) := by
  have same := Registry.name_of_lookup looked
  have known : registry.lookup type.name = .ok (some type) := by rwa [same]
  refine ⟨isSubtype_iff_exists_above known, ?_, fun _ => ends_iff known,
    same ▸ isSubtype_self known, fun _ _ => isSubtype_trans known, isSubtype_iff_parent known⟩
  intro bound enough
  exact searchFrom_of_height_le known .start (List.Subset.refl _) (Nat.le_refl _) enough

namespace Subtyping

/-- A class with a supertype that nobody knows, one that cannot be read, and one that inherits from
the class again. -/
def lower : Descriptor := ⟨"a.Lower", .classType, ["a.Missing", "a.Broken", "a.Upper"], []⟩

def upper : Descriptor := ⟨"a.Upper", .interface, ["a.Lower", numberType], []⟩

/-- A registry in which these types are defined. -/
def troubled : Registry :=
  (Registry.ofSettings .default).changed
    [.define lower, .define upper, .register [⟨"a/Broken.type.json", []⟩]]

end Subtyping

/-- A search goes past what is not found, and back where it started, and ends. -/
theorem troubled_type_is_numeric :
    troubled.lookup "a.Lower" = .ok (some lower) ∧ troubled.lookup "a.Missing" = .ok none ∧
      (∃ fault, troubled.lookup "a.Broken" = .error fault) ∧
      (∃ other, troubled.Above lower other ∧ other.name = numberType) ∧
      Ends troubled stringType [lower] [] false := by
  -- all in one, as the registry is built once for each decision
  have computed : troubled.lookup "a.Lower" = .ok (some lower) ∧
      troubled.lookup "a.Missing" = .ok none ∧
      troubled.lookup "a.Broken" = .error (.descriptor "a.Broken"
        "EOF while parsing a value at line 1 column 0") ∧
      isSubtype troubled lower numberType = true ∧
      isSubtype troubled lower stringType = false := by decide +kernel
  obtain ⟨looked, missing, broken, isNumber, noString⟩ := computed
  obtain ⟨numeric, -⟩ := isSubtype_iff_above troubled "a.Lower" numberType lower looked
  obtain ⟨-, -, ends, -⟩ := isSubtype_iff_above troubled "a.Lower" stringType lower looked
  exact ⟨looked, missing, ⟨_, broken⟩, numeric.mp isNumber, (ends false).mpr noString.symm⟩

end RuleVocabulary
