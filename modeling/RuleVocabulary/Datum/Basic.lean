import RuleVocabulary.Decimal.Notation

/-!
# Data of settings

A source of settings, whatever its notation, holds a table of data. Where a text is wanted, numbers
and truth values are good too and are written out; lists and tables are not, and neither is
nothing.
-/

set_option autoImplicit false

namespace RuleVocabulary

/-- A datum of a source of settings. -/
inductive Datum where
  | null
  | boolean (value : Bool)
  | integer (value : Int)
  | float (value : Float)
  | text (value : String)
  | list (elements : List Datum)
  | table (members : List (String × Datum))
deriving Inhabited

namespace Datum

/-- The text that a datum gives. -/
def text? : Datum → Option String
  | boolean value => some (if value then "true" else "false")
  | integer value => some (toString value)
  | float value => some (Decimal.positional value)
  | text value => some value
  | null | list _ | table _ => none

/-- The texts that a datum gives. -/
def texts? : Datum → Option (List String)
  | list elements => elements.mapM text?
  | _ => none

/-- The elements of a list; other data have none. -/
def elements : Datum → List Datum
  | list elements => elements
  | _ => []

/-- The members of a table; other data have none. -/
def members : Datum → List (String × Datum)
  | table members => members
  | _ => []

end Datum

/-! ## Tables -/

namespace Table

/-- Puts a value under a name, in place of one that is there already. -/
def put {α : Type} (name : String) (value : α) : List (String × α) → List (String × α)
  | [] => [(name, value)]
  | member :: members =>
    if member.1 = name then (name, value) :: members else member :: put name value members

/-- The table that members make, put into it one after the other. -/
def collect {α : Type} (members : List (String × α)) : List (String × α) :=
  members.foldl (fun table member => put member.1 member.2 table) []

theorem lookup_put_self {α : Type} (name : String) (value : α) (members : List (String × α)) :
    (put name value members).lookup name = some value := by
  induction members with
  | nil => simp [put]
  | cons member members ih =>
    obtain ⟨key, current⟩ := member
    unfold put
    split
    · simp
    · rename_i different
      have unequal : (name == key) = false := by simpa using Ne.symm different
      simp [List.lookup_cons, unequal, ih]

theorem lookup_put_of_ne {α : Type} {name other : String} (different : other ≠ name) (value : α)
    (members : List (String × α)) :
    (put name value members).lookup other = members.lookup other := by
  have unequal : (other == name) = false := by simpa using different
  induction members with
  | nil => simp [put, List.lookup_cons, unequal]
  | cons member members ih =>
    obtain ⟨key, current⟩ := member
    unfold put
    split
    · rename_i same
      obtain rfl : key = name := same
      simp [List.lookup_cons, unequal]
    · cases found : other == key <;> simp [List.lookup_cons, found, ih]

end Table

end RuleVocabulary
