import RuleVocabulary.Text.Blank

/-!
# Sections of a mapping file

An entry of a mapping file belongs to a section, which its tag names. Blanks around a tag and the
case of its letters do not matter.
-/

set_option autoImplicit false

namespace RuleVocabulary.Mapping

/-- Where the sentence of an entry may be used. -/
inductive Section where
  /-- In the conditions of a rule. -/
  | condition
  /-- In the actions of a rule. -/
  | consequence
  /-- In place of a keyword. -/
  | keyword
  /-- Anywhere. -/
  | any
deriving DecidableEq, Repr

namespace Section

/-- All sections. -/
def all : List Section := [condition, consequence, keyword, any]

/-- The name of a section. -/
def label : Section → String
  | condition => "condition"
  | consequence => "consequence"
  | keyword => "keyword"
  | any => "any"

/-- The tags of a section. -/
def tags : Section → List String
  | condition => ["when", "condition"]
  | consequence => ["then", "consequence"]
  | keyword => ["keyword"]
  | any => ["*"]

/-- The lower-case form of a character, for those whose lower-case form a tag may hold: the
capital letters from A to Z, and the sign for kelvin. -/
def lowered (c : Char) : Char :=
  if c.isUpper then c.toLower else if c = '\u212A' then 'k' else c

/-- The section that a tag names. -/
def ofTag? (tag : String) : Option Section :=
  let name := String.ofList ((Text.trim tag.toList).map lowered)
  all.find? (·.tags.contains name)

/-- The section with the given name. -/
def ofLabel? (label : String) : Option Section :=
  all.find? (·.label = label)

end Section

end RuleVocabulary.Mapping
