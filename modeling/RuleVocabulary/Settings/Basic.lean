/-!
# Settings

What a rule author's environment may choose: the namespace tried for unqualified names, the
keywords that name primitive types, the members that authors never see, and the ending of the
archive paths under which descriptors are stored.
-/

set_option autoImplicit false

namespace RuleVocabulary

/-- The settings of a loader. -/
structure Settings where
  defaultNamespace : String
  primitiveTypes : List String
  ignoredMembers : List String
  resourceSuffix : String
deriving DecidableEq, Repr

namespace Settings

/-- The settings where nothing was chosen. -/
def default : Settings where
  defaultNamespace := "java.lang"
  primitiveTypes := ["boolean", "byte", "char", "short", "int", "long", "float", "double"]
  ignoredMembers := ["class", "hashCode", "toString"]
  resourceSuffix := ".type.json"

/-- Whether a member is kept from authors. -/
def isIgnored (settings : Settings) (member : String) : Bool :=
  settings.ignoredMembers.contains member

/-- Whether a name is a primitive keyword. -/
def isPrimitive (settings : Settings) (name : String) : Bool :=
  settings.primitiveTypes.contains name

end Settings

end RuleVocabulary
