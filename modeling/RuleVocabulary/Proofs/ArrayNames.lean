import Mathlib.Data.List.DropRight
import RuleVocabulary.Proofs.Header.Word
import RuleVocabulary.Proofs.Resolution

/-!
# What the name of an array is resolved to

The name of an array is that of its elements with brackets behind it (`Name.dimensions`). A lookup
takes them off one pair after the other, and each time the blanks that are left behind the name. No
name that an element may stand for ends with a blank (`Imports.endsSolid_of_mem_meanings`), so the
blanks are those that the author wrote, and the lookup of an array leads back to that of its
elements (`Registry.lookup_append_dimensions`).

Main statement: the name of an array is known, unknown or unreadable whenever that of its elements
is, and it stands for the arrays of what that one stands for (`Scope.arrays_resolve_like_elements`).
-/

set_option autoImplicit false

namespace RuleVocabulary

namespace Text

/-! ## Texts that do not end with a blank -/

/-- A text that does not end with a blank. -/
def EndsSolid (text : List Char) : Prop :=
  ∀ c ∈ text.getLast?, isBlank c = false

theorem endsSolid_concat (text : List Char) {c : Char} (solid : isBlank c = false) :
    EndsSolid (text ++ [c]) := by
  intro last same
  rw [List.getLast?_concat] at same
  obtain rfl := Option.some.inj same
  exact solid

theorem EndsSolid.append {first second : List Char} (front : EndsSolid first)
    (back : EndsSolid second) : EndsSolid (first ++ second) := by
  intro c last
  rw [List.getLast?_append] at last
  cases behind : second.getLast? with
  | none => exact front c (by simpa [behind] using last)
  | some other => exact back c (by simpa [behind] using last)

/-- What is trimmed in front and ends solidly is trimmed. -/
theorem EndsSolid.trim_eq {text : List Char} (solid : EndsSolid (trimStart text)) :
    trim text = trimStart text :=
  trimEnd_eq_self solid

theorem trim_trimStart (text : List Char) : trim (trimStart text) = trim text :=
  congrArg trimEnd (List.dropWhile_idempotent ..)

theorem trim_subset (text : List Char) : trim text ⊆ text := fun _ member =>
  (List.dropWhile_suffix isBlank).subset ((prefix_of_trimEnd (trimStart text)).subset member)

end Text

namespace Name

/-! ## Brackets -/

/-- Brackets for the given number of dimensions. -/
def dimensions (count : Nat) : String :=
  String.ofList (List.replicate count brackets).flatten

theorem toList_dimensions_succ (count : Nat) :
    (dimensions (count + 1)).toList = '[' :: ']' :: (dimensions count).toList := by
  simp only [dimensions, String.toList_ofList]
  rfl

/-- One dimension more is one pair of brackets behind the others. -/
theorem dimensions_succ (count : Nat) : dimensions (count + 1) = dimensions count ++ "[]" := by
  rw [← String.toList_inj, String.toList_append]
  simp only [dimensions, String.toList_ofList, List.replicate_succ', List.flatten_concat]
  rfl

theorem endsSolid_append_brackets (name : String) : Text.EndsSolid (name ++ "[]").toList := by
  rw [String.toList_append, show "[]".toList = ['['] ++ [']'] from rfl, ← List.append_assoc]
  exact Text.endsSolid_concat _ rfl

theorem endsSolid_dimensions (count : Nat) : Text.EndsSolid (dimensions count).toList := by
  cases count with
  | zero => exact nofun
  | succ count =>
      rw [dimensions_succ]
      exact endsSolid_append_brackets _

theorem endsSolid_join {name : String} (solid : Text.EndsSolid name.toList) (qualifier : String) :
    Text.EndsSolid (join qualifier name).toList := by
  rw [join, String.toList_append, String.toList_append]
  exact (Text.endsSolid_concat _ rfl).append solid

/-- A name ends as its short name does, or with a dot. -/
theorem endsSolid_of_short {name : String} (solid : Text.EndsSolid (short name).toList) :
    Text.EndsSolid name.toList := by
  intro c last
  by_cases dot : c = '.'
  · subst dot
    rfl
  · refine solid c ?_
    rw [short, String.toList_ofList, shortChars, List.getLast?_reverse, List.head?_takeWhile,
      List.head?_reverse]
    exact Option.filter_eq_some_iff.mpr ⟨last, decide_eq_true dot⟩

theorem endsSolid_elementOf (name : String) : Text.EndsSolid (elementOf name).toList := by
  rw [elementOf, String.toList_ofList]
  exact Text.getLast?_trim

/-! ## The parts of the name of an array -/

section Plain

variable {element : String}

/-- Brackets stop what is taken of a name, and the blanks in front of them are not trimmed. -/
theorem trim_append_dimensions (name : String) (count : Nat) :
    Text.trim (name ++ dimensions (count + 1)).toList =
      Text.trimStart name.toList ++ (dimensions (count + 1)).toList := by
  have start : Text.trimStart (name ++ dimensions (count + 1)).toList =
      Text.trimStart name.toList ++ (dimensions (count + 1)).toList := by
    rw [String.toList_append, toList_dimensions_succ]
    exact Header.dropWhile_append_of_stop (by rintro c ⟨⟩; rfl) _
  rw [Text.EndsSolid.trim_eq, start]
  rw [start, dimensions_succ, ← String.toList_ofList (l := Text.trimStart name.toList),
    ← String.toList_append, ← String.append_assoc]
  exact endsSolid_append_brackets _

theorem takeWhile_of_plain (plain : '[' ∉ element.toList) {text : List Char}
    (part : text ⊆ element.toList) : text.takeWhile (· ≠ '[') = text :=
  List.takeWhile_eq_self_iff.mpr fun _ member =>
    decide_eq_true fun bracket => plain (bracket ▸ part member)

theorem dropWhile_of_plain (plain : '[' ∉ element.toList) {text : List Char}
    (part : text ⊆ element.toList) : text.dropWhile (· ≠ '[') = [] :=
  List.dropWhile_eq_nil_iff.mpr fun _ member =>
    decide_eq_true fun bracket => plain (bracket ▸ part member)

theorem elementOf_of_plain (plain : '[' ∉ element.toList) :
    elementOf element = String.ofList (Text.trim element.toList) := by
  rw [elementOf, takeWhile_of_plain plain (Text.trim_subset _),
    Text.trim_eq_self Text.head?_trim Text.getLast?_trim]

theorem bracketsOf_of_plain (plain : '[' ∉ element.toList) : bracketsOf element = "" := by
  rw [bracketsOf, dropWhile_of_plain plain (Text.trim_subset _), String.ofList_nil]

theorem elementOf_append_dimensions (plain : '[' ∉ element.toList) (count : Nat) :
    elementOf (element ++ dimensions (count + 1)) = elementOf element := by
  have start : Text.trimStart element.toList ⊆ element.toList :=
    (List.dropWhile_suffix Text.isBlank).subset
  rw [elementOf_of_plain plain, elementOf, trim_append_dimensions, toList_dimensions_succ,
    Header.takeWhile_append_of_stop (by rintro c ⟨⟩; rfl), takeWhile_of_plain plain start,
    Text.trim_trimStart]

theorem bracketsOf_append_dimensions (plain : '[' ∉ element.toList) (count : Nat) :
    bracketsOf (element ++ dimensions (count + 1)) = dimensions (count + 1) := by
  have start : Text.trimStart element.toList ⊆ element.toList :=
    (List.dropWhile_suffix Text.isBlank).subset
  rw [bracketsOf, trim_append_dimensions, toList_dimensions_succ,
    Header.dropWhile_append_of_stop (by rintro c ⟨⟩; rfl), dropWhile_of_plain plain start,
    List.nil_append, ← toList_dimensions_succ, String.ofList_toList]

end Plain

end Name

/-! ## Arrays of known types -/

/-- The array of a type with the given number of dimensions. -/
def Descriptor.arrayed (element : Descriptor) (count : Nat) : Descriptor :=
  .bare (element.name ++ Name.dimensions count) .array

/-- The universal base is no array. -/
theorem Name.append_brackets_ne_universalBase (name : String) : name ++ "[]" ≠ universalBase :=
  (Name.element?_eq_none_iff.mp (by decide) name).symm

/-- Arrays inherit from the universal base and from nothing else. -/
theorem Descriptor.allSupertypes_array (name : String) :
    (bare (name ++ "[]") .array).allSupertypes = [universalBase] :=
  if_pos ⟨rfl, Name.append_brackets_ne_universalBase name, List.not_mem_nil⟩

/-- What is answered for the arrays of a type, where the given answer is that for the type. -/
def arrayAnswer (count : Nat) (answer : Except Fault (Option Descriptor)) :
    Except Fault (Option Descriptor) :=
  answer.map (Option.map (·.arrayed count))

theorem arrayAnswer_eq_none_iff {count : Nat} {answer : Except Fault (Option Descriptor)} :
    arrayAnswer count answer = .ok none ↔ answer = .ok none := by
  rcases answer with fault | _ | type <;> simp [arrayAnswer, Except.map]

theorem arrayAnswer_eq_some_iff {count : Nat} {answer : Except Fault (Option Descriptor)}
    {array : Descriptor} :
    arrayAnswer count answer = .ok (some array) ↔
      ∃ type, answer = .ok (some type) ∧ array = type.arrayed count := by
  rcases answer with fault | _ | type <;> simp [arrayAnswer, Except.map, eq_comm]

theorem arrayAnswer_eq_error_iff {count : Nat} {answer : Except Fault (Option Descriptor)}
    {fault : Fault} : arrayAnswer count answer = .error fault ↔ answer = .error fault := by
  rcases answer with cause | _ | type <;> simp [arrayAnswer, Except.map]

/-- The first answer for arrays is that for arrays of the first answer. -/
theorem firstAnswer_map_arrayAnswer (count : Nat)
    (answers : List (Except Fault (Option Descriptor))) :
    firstAnswer (answers.map (arrayAnswer count)) = arrayAnswer count (firstAnswer answers) := by
  induction answers with
  | nil => rfl
  | cons answer answers ih =>
      rw [List.map_cons]
      by_cases unknown : answer = .ok none
      · subst unknown
        exact ih
      · rw [firstAnswer_cons_of_known unknown,
          firstAnswer_cons_of_known (arrayAnswer_eq_none_iff.not.mpr unknown)]

namespace Registry

variable {registry : Registry} {name : String}

/-- An array is known whenever its elements are. -/
theorem lookup_append_brackets (solid : Text.EndsSolid name.toList) :
    registry.lookup (name ++ "[]") =
      (registry.lookup name).map (Option.map fun _ => .bare (name ++ "[]") .array) := by
  rw [lookup_array (Name.element?_append_brackets name), Text.trimEnd_eq_self solid,
    String.ofList_toList]
  rcases registry.lookup name with fault | _ | type <;> rfl

theorem lookup_append_brackets_eq_none_iff (solid : Text.EndsSolid name.toList) :
    registry.lookup (name ++ "[]") = .ok none ↔ registry.lookup name = .ok none := by
  rw [lookup_append_brackets solid]
  rcases registry.lookup name with fault | _ | type <;> simp [Except.map]

/-- So is one of more dimensions. -/
theorem lookup_append_dimensions (solid : Text.EndsSolid name.toList) (count : Nat) :
    registry.lookup (name ++ Name.dimensions (count + 1)) =
      arrayAnswer (count + 1) (registry.lookup name) := by
  have arrays : registry.lookup (name ++ Name.dimensions (count + 1)) =
      (registry.lookup name).map
        (Option.map fun _ => .bare (name ++ Name.dimensions (count + 1)) .array) := by
    induction count with
    | zero => exact lookup_append_brackets solid
    | succ count ih =>
        have inner : Text.EndsSolid (name ++ Name.dimensions (count + 1)).toList := by
          rw [String.toList_append]
          exact solid.append (Name.endsSolid_dimensions _)
        rw [Name.dimensions_succ (count + 1), ← String.append_assoc, lookup_append_brackets inner,
          ih]
        rcases registry.lookup name with fault | _ | type <;> rfl
  rw [arrays]
  cases known : registry.lookup name with
  | error fault => rfl
  | ok found =>
      cases found with
      | none => rfl
      | some type =>
          simp only [arrayAnswer, Except.map, Option.map_some, Descriptor.arrayed,
            name_of_lookup known]

end Registry

/-! ## Arrays of resolved names -/

/-- No name that an element may stand for ends with a blank. -/
theorem Imports.endsSolid_of_mem_meanings {settings : Settings} {targets : List String}
    {element meaning : String} (solid : Text.EndsSolid element.toList)
    (member : meaning ∈ meanings settings targets element) : Text.EndsSolid meaning.toList := by
  simp only [meanings, List.mem_append, Option.mem_toList, List.mem_map] at member
  rcases member with ((own | ⟨package, -, rfl⟩) | default) | primitive
  · rw [ownMeaning?] at own
    split at own
    · obtain rfl := Option.some.inj own
      exact solid
    · have named := List.find?_some own
      obtain ⟨-, rfl⟩ : _ ∧ Name.short meaning = element := by simpa [names] using named
      exact Name.endsSolid_of_short solid
  · exact Name.endsSolid_join solid package
  · split at default
    · cases default
    · obtain rfl := List.mem_singleton.mp default
      exact Name.endsSolid_join solid _
  · split at primitive
    · obtain rfl := List.mem_singleton.mp primitive
      exact solid
    · cases primitive

namespace Scope

variable {element : String} {count : Nat}

theorem resolve_append_dimensions (settings : Settings) (targets : List String)
    (registry : Registry) (plain : '[' ∉ element.toList) (count : Nat) :
    resolve ⟨Imports.ofTargets targets, settings⟩ registry
        (element ++ Name.dimensions (count + 1)) =
      arrayAnswer (count + 1) (resolve ⟨Imports.ofTargets targets, settings⟩ registry element) := by
  have arrays : ∀ meaning ∈ Imports.meanings settings targets (Name.elementOf element),
      registry.lookup (meaning ++ Name.dimensions (count + 1)) =
        arrayAnswer (count + 1) (registry.lookup meaning) := fun meaning member =>
    Registry.lookup_append_dimensions
      (Imports.endsSolid_of_mem_meanings (Name.endsSolid_elementOf element) member) count
  simp only [resolve_eq, Name.elementOf_append_dimensions plain,
    Name.bracketsOf_append_dimensions plain, Name.bracketsOf_of_plain plain, String.append_empty]
  rw [List.map_congr_left arrays, ← firstAnswer_map_arrayAnswer, List.map_map]
  rfl

/-- **Arrays are resolved as their elements are.** The name of an array is known, unknown or
unreadable whenever that of its elements is, and it stands for an array that is named after what
the elements are and inherits from the universal base alone. -/
theorem arrays_resolve_like_elements (settings : Settings) (targets : List String)
    (registry : Registry) (plain : '[' ∉ element.toList) (positive : 0 < count) :
    let resolved := resolve ⟨Imports.ofTargets targets, settings⟩ registry
    let array := element ++ Name.dimensions count
    (∀ found, resolved array = .ok (some found) ↔
      ∃ type, resolved element = .ok (some type) ∧
        found = .bare (type.name ++ Name.dimensions count) .array) ∧
    (∀ found, resolved array = .ok (some found) → found.allSupertypes = [universalBase]) ∧
    (resolved array = .ok none ↔ resolved element = .ok none) ∧
    ∀ fault, resolved array = .error fault ↔ resolved element = .error fault := by
  intro resolved array
  obtain ⟨fewer, rfl⟩ := Nat.exists_eq_add_one.mpr positive
  have same : resolved array = arrayAnswer (fewer + 1) (resolved element) :=
    resolve_append_dimensions settings targets registry plain fewer
  rw [same]
  refine ⟨fun _ => arrayAnswer_eq_some_iff, ?_, arrayAnswer_eq_none_iff,
    fun _ => arrayAnswer_eq_error_iff⟩
  intro found known
  obtain ⟨type, -, rfl⟩ := arrayAnswer_eq_some_iff.mp known
  rw [Descriptor.arrayed, Name.dimensions_succ, ← String.append_assoc]
  exact Descriptor.allSupertypes_array _

/-- Arrays of orders, which are known by an import, and arrays of a name that stands for nothing.
The blanks around the name of the elements do not count. -/
theorem arrays_resolve_like_orders :
    let registry := (Registry.ofSettings .default).define (.bare "a.Order" .interface)
    let resolved := resolve ⟨Imports.ofTargets ["a.Order"], .default⟩ registry
    resolved " Order [][]" = .ok (some (.bare "a.Order[][]" .array)) ∧
      resolved "Gone[][]" = .ok none := by
  intro registry resolved
  have order := @arrays_resolve_like_elements " Order " 2 .default ["a.Order"] registry
    (by decide) (by decide)
  have gone := @arrays_resolve_like_elements "Gone" 2 .default ["a.Order"] registry
    (by decide) (by decide)
  refine ⟨(order.1 _).mpr ⟨.bare "a.Order" .interface, ?_, rfl⟩, gone.2.2.1.mpr ?_⟩ <;>
    decide +kernel

end Scope

end RuleVocabulary
