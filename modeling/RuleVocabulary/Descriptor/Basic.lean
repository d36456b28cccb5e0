import RuleVocabulary.Name

/-!
# Type descriptors

A descriptor tells the qualified name of a type, its kind, its direct supertypes and the fields it
declares itself. Classes and arrays have the universal base among their supertypes even where they
do not declare it; the base itself, interfaces and primitives do not.
-/

set_option autoImplicit false

namespace RuleVocabulary

/-- What a type is. -/
inductive Kind where
  | primitive
  | classType
  | interface
  | array
deriving DecidableEq, Repr, Inhabited

namespace Kind

/-- The name of a kind. -/
def label : Kind → String
  | primitive => "primitive"
  | classType => "class"
  | interface => "interface"
  | array => "array"

/-- All kinds. -/
def all : List Kind := [primitive, classType, interface, array]

/-- The kind with the given name. -/
def ofLabel? (label : String) : Option Kind :=
  all.find? (·.label = label)

/-- Whether the types of a kind inherit from the universal base without saying so. -/
def inheritsBase : Kind → Bool
  | classType | array => true
  | _ => false

theorem ofLabel?_label (kind : Kind) : ofLabel? kind.label = some kind := by
  cases kind <;> decide

end Kind

/-- A field that a type declares. -/
structure FieldDeclaration where
  name : String
  typeName : String
deriving DecidableEq, Repr

/-- The description of one type. -/
structure Descriptor where
  name : String
  kind : Kind
  supertypes : List String
  fields : List FieldDeclaration
deriving DecidableEq, Repr

/-- The type that all classes and arrays inherit from. -/
def universalBase : String := "java.lang.Object"

namespace Descriptor

/-- A descriptor without supertypes and fields. -/
def bare (name : String) (kind : Kind) : Descriptor :=
  ⟨name, kind, [], []⟩

/-- The declared supertypes, and the universal base where it is implied. -/
def allSupertypes (descriptor : Descriptor) : List String :=
  if descriptor.kind.inheritsBase ∧ descriptor.name ≠ universalBase ∧
      universalBase ∉ descriptor.supertypes then
    descriptor.supertypes ++ [universalBase]
  else descriptor.supertypes

/-- The last part of the name. -/
def shortName (descriptor : Descriptor) : String :=
  Name.short descriptor.name

/-- Whether the described type is primitive. -/
def isPrimitive (descriptor : Descriptor) : Bool :=
  descriptor.kind = .primitive

end Descriptor

end RuleVocabulary
