import RuleVocabulary.Descriptor.Basic

/-!
# The ambient types

The types that every registry knows from the start. The universal base contributes the members
that authors never want to see; the others are there for the sake of their supertypes, by which
the fields of other types are classified.
-/

set_option autoImplicit false

namespace RuleVocabulary

/-- The type of all numbers that are objects. -/
def numberType : String := "java.lang.Number"

/-- The type of strings. -/
def stringType : String := "java.lang.String"

/-- The type of all collections. -/
def collectionType : String := "java.util.Collection"

/-- The type of all that can be ordered. -/
def comparableType : String := "java.lang.Comparable"

namespace Ambient

/-- A class with the given supertypes and no fields. -/
def ambientClass (name : String) (supertypes : List String) : Descriptor :=
  ⟨name, .classType, supertypes, []⟩

/-- An interface with the given supertypes and no fields. -/
def ambientInterface (name : String) (supertypes : List String) : Descriptor :=
  ⟨name, .interface, supertypes, []⟩

/-- The universal base. -/
def base : Descriptor :=
  ⟨universalBase, .classType, [],
    [⟨"class", "java.lang.Class"⟩, ⟨"hashCode", "int"⟩, ⟨"toString", stringType⟩]⟩

/-- Text, dates, and what they have in common. -/
def plainTypes : List Descriptor := [
  ambientClass "java.lang.Class" [],
  ambientInterface comparableType [],
  ambientInterface "java.lang.CharSequence" [],
  ambientClass numberType [],
  ambientClass stringType ["java.lang.CharSequence", comparableType],
  ambientClass "java.lang.Boolean" [comparableType],
  ambientClass "java.lang.Character" [comparableType],
  ambientClass "java.lang.Enum" [comparableType],
  ambientClass "java.util.Date" [comparableType]]

/-- Collections and maps. -/
def containerTypes : List Descriptor := [
  ambientInterface collectionType [],
  ambientInterface "java.util.List" [collectionType],
  ambientInterface "java.util.Set" [collectionType],
  ambientInterface "java.util.Queue" [collectionType],
  ambientClass "java.util.ArrayList" ["java.util.List"],
  ambientClass "java.util.LinkedList" ["java.util.List", "java.util.Queue"],
  ambientClass "java.util.HashSet" ["java.util.Set"],
  ambientClass "java.util.TreeSet" ["java.util.Set"],
  ambientInterface "java.util.Map" [],
  ambientClass "java.util.HashMap" ["java.util.Map"]]

/-- The primitive types. -/
def primitiveTypes : List Descriptor :=
  ["boolean", "byte", "char", "short", "int", "long", "float", "double"].map
    (Descriptor.bare · .primitive)

/-- The numbers that are objects. -/
def numberTypes : List Descriptor :=
  ["java.lang.Byte", "java.lang.Short", "java.lang.Integer", "java.lang.Long", "java.lang.Float",
    "java.lang.Double", "java.math.BigDecimal", "java.math.BigInteger"].map
    (ambientClass · [numberType, comparableType])

/-- All ambient types. -/
def types : List Descriptor :=
  base :: plainTypes ++ containerTypes ++ primitiveTypes ++ numberTypes

end Ambient

end RuleVocabulary
