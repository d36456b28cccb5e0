/-!
# Qualified and short names

A qualified name is a list of parts joined by dots; its last part is its short name. A name that
ends in `[]` is the name of an array, and what stands before the brackets names its elements.
-/

set_option autoImplicit false

namespace RuleVocabulary.Name

/-- The part of a name behind its last dot. -/
def shortChars (name : List Char) : List Char :=
  (name.reverse.takeWhile (· ≠ '.')).reverse

/-- The part of a name behind its last dot. -/
def short (name : String) : String :=
  String.ofList (shortChars name.toList)

/-- What stands before a given ending, if the name has it. -/
def dropEnding? (ending name : List Char) : Option (List Char) :=
  if ending.isSuffixOf name then some (name.take (name.length - ending.length)) else none

/-- The brackets of an array name. -/
def brackets : List Char := ['[', ']']

/-- What stands before the brackets of an array name. -/
def element? (name : List Char) : Option (List Char) :=
  dropEnding? brackets name

/-- The ending of an import that covers a whole package. -/
def wildcardEnding : List Char := ['.', '*']

/-- The package that an import with a wildcard covers. -/
def wildcardPackage? (target : String) : Option String :=
  (dropEnding? wildcardEnding target.toList).map String.ofList

/-- Whether an import covers a whole package. -/
def isWildcard (target : String) : Bool :=
  (wildcardPackage? target).isSome

/-- Joins two names by a dot. -/
def join (qualifier name : String) : String :=
  qualifier ++ "." ++ name

/-! ## Small facts -/

theorem dropEnding?_eq_some_iff {ending name front : List Char} :
    dropEnding? ending name = some front ↔ name = front ++ ending := by
  unfold dropEnding?
  constructor
  · intro found
    split at found
    · rename_i isEnding
      obtain ⟨before, rfl⟩ := List.isSuffixOf_iff_suffix.mp isEnding
      simp at found
      rw [found]
    · simp at found
  · rintro rfl
    have : ending.isSuffixOf (front ++ ending) = true :=
      List.isSuffixOf_iff_suffix.mpr (List.suffix_append front ending)
    simp [this]

/-- The element of an array name is shorter than the name. -/
theorem length_element?_lt {name element : List Char} (found : element? name = some element) :
    element.length < name.length := by
  rw [dropEnding?_eq_some_iff.mp found]
  simp [brackets]

/-- A short name holds no dot. -/
theorem dot_not_mem_short (name : List Char) : '.' ∉ shortChars name := by
  intro member
  have kept := List.all_takeWhile (p := fun c => decide (c ≠ '.')) (l := name.reverse)
  have := List.all_eq_true.mp kept '.' (List.mem_reverse.mp member)
  simp at this

end RuleVocabulary.Name
