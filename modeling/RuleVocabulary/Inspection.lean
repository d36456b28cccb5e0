import RuleVocabulary.Registry.Basic

/-!
# The fields of a type

A type has the fields that it declares and those of its supertypes. They are listed with the own
fields first, then those of each supertype in the order of declaration; a name keeps the first
declaration met. A supertype that was visited before is not visited again. A supertype that cannot
be found, or one that inherits from itself, is a fault. Ignored members are left out at the end.
-/

set_option autoImplicit false

namespace RuleVocabulary

/-- A field of a type, with its declared type where that is known. -/
structure InspectedField where
  name : String
  declaredType : Option Descriptor
deriving DecidableEq, Repr

namespace Inspection

/-- How far an inspection has come: the types done with, and the declarations found. -/
structure Survey where
  finished : List String
  declarations : List FieldDeclaration
deriving DecidableEq, Repr

/-- Adds a declaration, unless one of the same name was met before. -/
def addDeclaration (declarations : List FieldDeclaration) (field : FieldDeclaration) :
    List FieldDeclaration :=
  if declarations.any (·.name = field.name) then declarations else declarations ++ [field]

/-- A type inherits from itself. -/
def cyclic (type : Descriptor) : Fault :=
  .introspection ("cyclic inheritance involving " ++ type.name)

/-- A supertype is not known. -/
def supertypeMissing (supertype : String) (type : Descriptor) : Fault :=
  .introspection ("supertype " ++ supertype ++ " of " ++ type.name ++ " not found")

/-- Looks up a supertype of a type, which must be there. -/
def parent (registry : Registry) (type : Descriptor) (supertype : String) :
    Except Fault Descriptor :=
  match registry.lookup supertype with
  | .error fault => .error fault
  | .ok none => .error (supertypeMissing supertype type)
  | .ok (some found) => .ok found

/-- Surveys a type and its supertypes. `path` holds the names of the types on the way to it. -/
def survey (registry : Registry) :
    (fuel : Nat) → (path : List String) → Descriptor → Survey → Except Fault Survey
  | 0, _, type, _ => .error (cyclic type)
  | fuel + 1, path, type, state =>
    if type.name ∈ path then .error (cyclic type)
    else if type.name ∈ state.finished then .ok state
    else
      let own : Survey := { state with
        declarations := type.fields.foldl addDeclaration state.declarations }
      let inherited : Except Fault Survey := type.allSupertypes.foldlM (fun state supertype =>
        match parent registry type supertype with
        | .error fault => .error fault
        | .ok found => survey registry fuel (type.name :: path) found state) own
      match inherited with
      | .error fault => .error fault
      | .ok state => .ok { state with finished := type.name :: state.finished }

/-- The declared type of a field, where it is known and can be read. -/
def declaredType? (registry : Registry) (field : FieldDeclaration) : Option Descriptor :=
  match registry.lookup field.typeName with
  | .ok found => found
  | .error _ => none

/-- The fields of a type that authors see. -/
def fields (registry : Registry) (settings : Settings) (type : Descriptor) :
    Except Fault (List InspectedField) :=
  match survey registry registry.height [] type ⟨[], []⟩ with
  | .error fault => .error fault
  | .ok state =>
    .ok ((state.declarations.filter (!settings.isIgnored ·.name)).map fun field =>
      ⟨field.name, declaredType? registry field⟩)

end Inspection

end RuleVocabulary
