import Mathlib.Data.List.Nodup
import RuleVocabulary.Proofs.Resolution

/-!
# Names that are tried twice

The candidates for a name are its meanings, less those that repeat the one before them. So meanings
that coincide are tried once only where they stand next to each other
(`Scope.nodup_dropRepeated_cons`).

Whoever looks names up is asked for the candidates one after the other, up to the first that is
known or cannot be read (`Scope.run_firstKnownBy_noting`).

Main statement: no candidate is listed twice, and nobody is asked twice, exactly where the default
namespace is imported last, the type that is imported under the name comes from the package that is
tried first, and an import of the keyword of a primitive type stands alone
(`Scope.candidates_are_listed_once_iff`). A negative control is a default namespace that is imported
before another package (`Scope.default_namespace_is_tried_twice`).
-/

set_option autoImplicit false

namespace RuleVocabulary

namespace Name

theorem join_left_inj {first second : String} (name : String) :
    join first name = join second name ↔ first = second := by
  rw [join, join, String.append_left_inj, String.append_left_inj]

theorem join_ne_name (qualifier name : String) : join qualifier name ≠ name := by
  intro same
  have lengths := congrArg String.length same
  simp [join] at lengths

end Name

namespace Scope

/-! ## Repetitions -/

theorem mem_dropRepeated (names : List String) (name : String) :
    name ∈ dropRepeated names ↔ name ∈ names := by
  fun_induction dropRepeated names with
  | case1 => rfl
  | case2 => rfl
  | case3 first rest ih => simp [ih]
  | case4 first second rest different ih => simp [ih]

/-- One name more in front is listed once if it comes again at once or never. -/
theorem nodup_dropRepeated_cons (name : String) (names : List String) :
    (dropRepeated (name :: names)).Nodup ↔
      (name ∈ names → names.head? = some name) ∧ (dropRepeated names).Nodup := by
  cases names with
  | nil => simp [dropRepeated]
  | cons next names =>
      rw [dropRepeated]
      by_cases same : name = next
      · simp [same]
      · rw [if_neg same, List.nodup_cons, mem_dropRepeated, List.head?_cons, Option.some_inj]
        simp only [eq_comm, same, imp_false]

/-- One name more behind is listed once if it came just before or never. -/
theorem nodup_dropRepeated_concat (names : List String) (name : String) :
    (dropRepeated (names ++ [name])).Nodup ↔
      (name ∈ names → names.getLast? = some name) ∧ (dropRepeated names).Nodup := by
  induction names with
  | nil => simp [dropRepeated]
  | cons first names ih =>
      rw [List.cons_append, nodup_dropRepeated_cons, nodup_dropRepeated_cons, ih]
      cases names with
      | nil => simp [eq_comm]
      | cons second names =>
          have among : first ∈ second :: (names ++ [name]) ↔
              first ∈ second :: names ∨ first = name := by
            rw [← List.cons_append, List.mem_append, List.mem_singleton]
          simp only [List.cons_append, List.head?_cons, List.getLast?_cons_cons, among, ← and_assoc]
          refine and_congr_left fun _ => ⟨?_, ?_⟩
          · rintro ⟨front, behind⟩
            refine ⟨fun member => ?_, fun earlier => front (.inl earlier)⟩
            rcases List.mem_cons.mp member with rfl | later
            · -- The same name in front comes again at once, so it is among the others.
              exact behind (List.mem_of_mem_head? (front (.inr rfl)))
            · exact behind later
          · rintro ⟨behind, front⟩
            refine ⟨?_, fun later => behind (List.mem_cons_of_mem first later)⟩
            rintro (earlier | rfl)
            · exact front earlier
            · exact front (List.mem_of_getLast? (behind (List.mem_cons_self ..)))

theorem nodup_dropRepeated_of_nodup {names : List String} (distinct : names.Nodup) :
    (dropRepeated names).Nodup := by
  induction names with
  | nil => exact distinct
  | cons name names ih =>
      obtain ⟨new, distinct⟩ := List.nodup_cons.mp distinct
      exact (nodup_dropRepeated_cons name names).mpr ⟨fun member => absurd member new, ih distinct⟩

theorem nodup_dropRepeated_map_iff {f : String → String} (injective : Function.Injective f)
    (names : List String) :
    (dropRepeated (names.map f)).Nodup ↔ (dropRepeated names).Nodup := by
  induction names with
  | nil => rfl
  | cons name names ih =>
      rw [List.map_cons, nodup_dropRepeated_cons, nodup_dropRepeated_cons, ih,
        List.mem_map_of_injective injective, List.head?_map, Option.map_eq_some_iff]
      simp only [injective.eq_iff, exists_eq_right]

end Scope

/-! ## Meanings that coincide -/

namespace Imports

/-- What is put in front of an element, in the order in which it is tried: the packages that are
imported as a whole, and the default namespace. -/
def qualifiers (settings : Settings) (targets : List String) : List String :=
  packagesOf targets ++
    if settings.defaultNamespace = "" then [] else [settings.defaultNamespace]

/-- Whether all meanings of an element that coincide stand next to each other. -/
structure MeetAtOnce (settings : Settings) (targets : List String) (element : String) : Prop where
  /-- If the default namespace is imported as a whole, then last. -/
  namespaceLast : settings.defaultNamespace ≠ "" → settings.defaultNamespace ∈ packagesOf targets →
    (packagesOf targets).getLast? = some settings.defaultNamespace
  /-- The type that is imported under the element comes from what is tried first, or from nothing
  that is tried. -/
  ownFirst : ∀ qualifier ∈ qualifiers settings targets,
    ownMeaning? targets element = some (Name.join qualifier element) →
      (qualifiers settings targets).head? = some qualifier
  /-- A primitive type that also stands for itself is looked for nowhere else. -/
  primitiveAlone : element ∈ settings.primitiveTypes →
    ownMeaning? targets element = some element → qualifiers settings targets = []

theorem meanings_eq (settings : Settings) (targets : List String) (element : String) :
    meanings settings targets element =
      (ownMeaning? targets element).toList ++
        ((qualifiers settings targets).map (Name.join · element) ++
          if element ∈ settings.primitiveTypes then [element] else []) := by
  rw [meanings, qualifiers, List.map_append, List.append_assoc, List.append_assoc,
    List.append_assoc]
  split <;> rfl

theorem nodup_qualifiers_iff (settings : Settings) (targets : List String) :
    (Scope.dropRepeated (qualifiers settings targets)).Nodup ↔
      (settings.defaultNamespace ≠ "" → settings.defaultNamespace ∈ packagesOf targets →
        (packagesOf targets).getLast? = some settings.defaultNamespace) := by
  have distinct : (Scope.dropRepeated (packagesOf targets)).Nodup :=
    Scope.nodup_dropRepeated_of_nodup (nodup_eraseDups _)
  rw [qualifiers]
  split
  · rename_i unnamed
    simp only [List.append_nil, distinct, unnamed, ne_eq, not_true_eq_false, false_imp_iff]
  · rename_i named
    simp only [Scope.nodup_dropRepeated_concat, distinct, and_true, ne_eq, named,
      not_false_eq_true, true_imp_iff]

end Imports

namespace Scope

variable {settings : Settings} {targets : List String} {element : String}

/-- The candidates behind what an element stands for on its own are listed once if the qualifiers
are: no qualified name is the element itself. -/
theorem nodup_qualified_iff :
    (dropRepeated ((Imports.qualifiers settings targets).map (Name.join · element) ++
        if element ∈ settings.primitiveTypes then [element] else [])).Nodup ↔
      (dropRepeated (Imports.qualifiers settings targets)).Nodup := by
  have injective : Function.Injective (Name.join · element) :=
    fun _ _ same => (Name.join_left_inj element).mp same
  have unmet : element ∉ (Imports.qualifiers settings targets).map (Name.join · element) := by
    intro member
    obtain ⟨qualifier, -, same⟩ := List.mem_map.mp member
    exact Name.join_ne_name qualifier element same
  split
  · rw [nodup_dropRepeated_concat, nodup_dropRepeated_map_iff injective]
    exact and_iff_right fun member => absurd member unmet
  · rw [List.append_nil, nodup_dropRepeated_map_iff injective]

/-- What an element stands for on its own comes again at once if it comes from the first qualifier,
or if it is the element and there is none. -/
theorem comes_at_once_iff (qualifiers : List String) (form : String) :
    (form ∈ qualifiers.map (Name.join · element) ++
          (if element ∈ settings.primitiveTypes then [element] else []) →
        (qualifiers.map (Name.join · element) ++
          if element ∈ settings.primitiveTypes then [element] else []).head? = some form) ↔
      (∀ qualifier ∈ qualifiers, form = Name.join qualifier element →
        qualifiers.head? = some qualifier) ∧
      (element ∈ settings.primitiveTypes → form = element → qualifiers = []) := by
  simp only [List.mem_append, List.mem_map, List.mem_ite_nil_right, List.mem_singleton]
  cases qualifiers with
  | nil =>
      refine iff_of_true ?_ ⟨nofun, fun _ _ => rfl⟩
      rintro (⟨_, none, _⟩ | ⟨primitive, rfl⟩)
      · cases none
      · rw [if_pos primitive]
        rfl
  | cons first rest =>
      rw [List.map_cons, List.cons_append, List.head?_cons, List.head?_cons, Option.some_inj]
      constructor
      · intro atOnce
        refine ⟨?_, ?_⟩
        · rintro qualifier listed rfl
          have again := atOnce (.inl ⟨qualifier, listed, rfl⟩)
          rw [(Name.join_left_inj element).mp again]
        · rintro primitive rfl
          exact absurd (atOnce (.inr ⟨primitive, rfl⟩)) (Name.join_ne_name first form)
      · rintro ⟨fromFirst, alone⟩ (⟨qualifier, listed, rfl⟩ | ⟨primitive, same⟩)
        · rw [Option.some.inj (fromFirst qualifier listed rfl)]
        · cases alone primitive same

/-- **When candidates are listed once.** -/
theorem nodup_candidates_iff (settings : Settings) (targets : List String) (element : String) :
    (candidates ⟨Imports.ofTargets targets, settings⟩ element).Nodup ↔
      Imports.MeetAtOnce settings targets element := by
  rw [candidates_eq, Imports.meanings_eq]
  cases own : Imports.ownMeaning? targets element with
  | none =>
      rw [Option.toList_none, List.nil_append, nodup_qualified_iff, Imports.nodup_qualifiers_iff]
      constructor
      · intro last
        exact ⟨last, by simp [own], by simp [own]⟩
      · exact Imports.MeetAtOnce.namespaceLast
  | some form =>
      rw [Option.toList_some, List.singleton_append, nodup_dropRepeated_cons, comes_at_once_iff,
        nodup_qualified_iff, Imports.nodup_qualifiers_iff]
      constructor
      · rintro ⟨⟨fromFirst, alone⟩, last⟩
        refine ⟨last, fun qualifier listed same => ?_, fun primitive same => ?_⟩
        · exact fromFirst qualifier listed (Option.some.inj (own.symm.trans same))
        · exact alone primitive (Option.some.inj (own.symm.trans same))
      · intro meet
        refine ⟨⟨fun qualifier listed same => ?_, fun primitive same => ?_⟩, meet.namespaceLast⟩
        · exact meet.ownFirst qualifier listed (own.trans (congrArg some same))
        · exact meet.primitiveAlone primitive (own.trans (congrArg some same))

/-! ## Who is asked for what -/

/-- The first of several names that is known to somebody who is asked. One that cannot be read stops
the search. -/
def firstKnownBy {m : Type → Type} [Monad m]
    (ask : String → m (Except Fault (Option Descriptor))) :
    List String → m (Except Fault (Option Descriptor))
  | [] => pure (.ok none)
  | name :: names => do
    match ← ask name with
    | .ok none => firstKnownBy ask names
    | answer => pure answer

/-- The type that a name stands for to somebody who is asked. -/
def resolveBy {m : Type → Type} [Monad m] (ask : String → m (Except Fault (Option Descriptor)))
    (scope : Scope) (name : String) : m (Except Fault (Option Descriptor)) :=
  let cut := cutBrackets name.toList
  firstKnownBy ask
    ((scope.candidates (String.ofList cut.1)).map (· ++ String.ofList cut.2))

/-- Somebody who answers and notes what has been asked. -/
def noting (answers : String → Except Fault (Option Descriptor)) (name : String) :
    StateM (List String) (Except Fault (Option Descriptor)) :=
  modifyGet fun asked => (answers name, asked ++ [name])

/-- The names that somebody is asked for until a name is resolved. -/
def asked (answers : String → Except Fault (Option Descriptor)) (scope : Scope) (name : String) :
    List String :=
  ((scope.resolveBy (noting answers) name).run []).2

/-- The search goes on behind a name that is not known, and ends at any other one. -/
theorem run_firstKnownBy_cons (answers : String → Except Fault (Option Descriptor)) (name : String)
    (names asked : List String) :
    (firstKnownBy (noting answers) (name :: names)).run asked =
      if answers name = .ok none then (firstKnownBy (noting answers) names).run (asked ++ [name])
      else (answers name, asked ++ [name]) := by
  have step : (firstKnownBy (noting answers) (name :: names)).run asked =
      (match answers name with
        | .ok none => firstKnownBy (noting answers) names
        | answer => pure answer).run (asked ++ [name]) := rfl
  rw [step]
  split
  · rename_i unknown
    rw [if_pos unknown]
  · rename_i known
    rw [if_neg known]
    rfl

/-- Names are asked for one after the other, up to the first that is known or cannot be read. -/
theorem run_firstKnownBy_noting (answers : String → Except Fault (Option Descriptor))
    (names asked : List String) :
    (firstKnownBy (noting answers) names).run asked =
      (firstAnswer (names.map answers),
        asked ++ names.take (names.findIdx (answers · ≠ .ok none) + 1)) := by
  induction names generalizing asked with
  | nil =>
      rw [List.take_nil, List.append_nil]
      rfl
  | cons name names ih =>
      rw [run_firstKnownBy_cons, List.map_cons, List.findIdx_cons, List.take_succ_cons]
      split
      · rename_i unknown
        rw [ih, unknown, firstAnswer_cons_of_unknown, List.append_assoc]
        simp
      · rename_i known
        rw [firstAnswer_cons_of_known known]
        simp [known]

theorem resolveBy_eq {m : Type → Type} [Monad m]
    (ask : String → m (Except Fault (Option Descriptor))) (scope : Scope) (name : String) :
    scope.resolveBy ask name =
      firstKnownBy ask
        ((scope.candidates (Name.elementOf name)).map (· ++ Name.bracketsOf name)) := by
  rw [resolveBy, cutBrackets_eq, String.ofList_toList, String.ofList_toList]

/-- Noting what is asked does not change the answer. -/
theorem answer_of_noting (scope : Scope) (registry : Registry) (name : String) :
    ((scope.resolveBy (noting registry.lookup) name).run []).1 = scope.resolve registry name := by
  rw [resolveBy_eq, run_firstKnownBy_noting, resolve, cutBrackets_eq, String.ofList_toList,
    String.ofList_toList, firstKnown_eq]

theorem asked_eq (answers : String → Except Fault (Option Descriptor)) (scope : Scope)
    (name : String) :
    let names := (scope.candidates (Name.elementOf name)).map (· ++ Name.bracketsOf name)
    scope.asked answers name = names.take (names.findIdx (answers · ≠ .ok none) + 1) := by
  intro names
  rw [asked, resolveBy_eq, run_firstKnownBy_noting, List.nil_append]

/-- Nobody is asked twice where no candidate is listed twice, and somebody to whom nothing is known
is asked for all candidates. -/
theorem nodup_asked_iff (scope : Scope) (name : String) :
    (∀ answers, (scope.asked answers name).Nodup) ↔
      (scope.candidates (Name.elementOf name)).Nodup := by
  have injective : Function.Injective (· ++ Name.bracketsOf name) :=
    fun _ _ same => (String.append_left_inj _).mp same
  rw [← List.nodup_map_iff injective]
  constructor
  · intro once
    have all := once fun _ => .ok none
    have unknown : ∀ names : List String,
        names.findIdx (fun _ =>
          decide ((.ok none : Except Fault (Option Descriptor)) ≠ .ok none)) = names.length := by
      intro names
      exact List.findIdx_eq_length_of_false (by simp)
    rwa [asked_eq, unknown, List.take_of_length_le (Nat.le_succ _)] at all
  · intro distinct answers
    rw [asked_eq]
    exact distinct.sublist (List.take_sublist ..)

/-- **Candidates are listed once exactly where meanings that coincide stand next to each other.** No
candidate for a name is listed twice if and only if the default namespace, if it is imported as a
whole, is imported last, the type imported under the name comes from what is tried first, and a
primitive type that stands for itself too is looked for nowhere else. Likewise nobody is asked for a
name twice, whatever is answered, if and only if this holds of the element of the name that is to be
resolved. A registry that is asked gives the answer that is the resolved type. -/
theorem candidates_are_listed_once_iff (settings : Settings) (targets : List String)
    (name : String) :
    let scope : Scope := ⟨Imports.ofTargets targets, settings⟩
    ((scope.candidates name).Nodup ↔ Imports.MeetAtOnce settings targets name) ∧
      ((∀ answers, (scope.asked answers name).Nodup) ↔
        Imports.MeetAtOnce settings targets (Name.elementOf name)) ∧
      ∀ registry : Registry,
        ((scope.resolveBy (noting registry.lookup) name).run []).1 =
          scope.resolve registry name := by
  intro scope
  refine ⟨nodup_candidates_iff settings targets name, ?_, ?_⟩
  · rw [nodup_asked_iff]
    exact nodup_candidates_iff settings targets (Name.elementOf name)
  · intro registry
    exact answer_of_noting scope registry name

/-- The default namespace is imported in front of another package. A type that neither holds is
looked for in the default namespace twice. -/
theorem default_namespace_is_tried_twice :
    let scope : Scope := ⟨Imports.ofTargets ["java.lang.*", "java.util.*"], .default⟩
    let registry := Registry.ofSettings .default
    scope.candidates "Order" = ["java.lang.Order", "java.util.Order", "java.lang.Order"] ∧
      ¬(scope.candidates "Order").Nodup ∧
      scope.asked registry.lookup "Order" =
        ["java.lang.Order", "java.util.Order", "java.lang.Order"] := by
  intro scope registry
  obtain ⟨listed, -⟩ :=
    candidates_are_listed_once_iff .default ["java.lang.*", "java.util.*"] "Order"
  refine ⟨by decide +kernel, ?_, by decide +kernel⟩
  rw [listed]
  intro meet
  have last := meet.namespaceLast (by decide) (by decide +kernel)
  exact absurd last (by decide +kernel)

end Scope

end RuleVocabulary
