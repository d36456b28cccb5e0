import RuleVocabulary.Registry.Basic

/-!
# Categories of fields

The category of a field tells an authoring tool which operators to offer. It follows from the
supertypes of the field's type; the first category that fits counts, so a number that can also be
ordered is numeric. A supertype that is not known hides only what lies behind it.
-/

set_option autoImplicit false

namespace RuleVocabulary

/-- What kind of operators a field takes. -/
inductive Category where
  | numeric
  | string
  | collection
  | comparable
  | unknown
deriving DecidableEq, Repr, Inhabited

namespace Category

/-- The name of a category. -/
def label : Category → String
  | numeric => "NUMERIC"
  | string => "STRING"
  | collection => "COLLECTION"
  | comparable => "COMPARABLE"
  | unknown => "UNKNOWN"

/-- All categories, the ones that count first in front. -/
def all : List Category := [numeric, string, collection, comparable, unknown]

end Category

namespace Subtyping

/-- The supertypes of a type that are known. -/
def parents (registry : Registry) (type : Descriptor) : List Descriptor :=
  type.allSupertypes.filterMap fun supertype =>
    match registry.lookup supertype with
    | .ok found => found
    | .error _ => none

/-- How far a search has come: whether it has found what it looks for, and the types it has seen. -/
structure Search where
  found : Bool
  seen : List String
deriving DecidableEq, Repr

/-- Searches a type and its supertypes for a name, leaving out types seen before. -/
def searchFrom (registry : Registry) (concept : String) :
    (fuel : Nat) → Descriptor → Search → Search
  | 0, _, search => search
  | fuel + 1, type, search =>
    if search.found then search
    else if type.name = concept then { search with found := true }
    else if type.name ∈ search.seen then search
    else
      (parents registry type).foldl (fun search parent =>
        searchFrom registry concept fuel parent search)
        { search with seen := type.name :: search.seen }

end Subtyping

/-- Whether a type is, or inherits from, the type of the given name. -/
def isSubtype (registry : Registry) (type : Descriptor) (concept : String) : Bool :=
  (Subtyping.searchFrom registry concept registry.height type ⟨false, []⟩).found

/-- The category of a type; an unknown type has the category `unknown`. -/
def Category.ofType? (registry : Registry) : Option Descriptor → Category
  | none => .unknown
  | some type =>
    if type.isPrimitive && type.name != "boolean" then .numeric
    else if isSubtype registry type numberType then .numeric
    else if isSubtype registry type stringType then .string
    else if isSubtype registry type collectionType then .collection
    else if isSubtype registry type comparableType then .comparable
    else .unknown

end RuleVocabulary
