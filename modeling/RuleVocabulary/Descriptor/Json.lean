import RuleVocabulary.Descriptor.Basic
import RuleVocabulary.Json.Reader
import RuleVocabulary.Json.Value

/-!
# Stored descriptors

Archives store descriptors as JSON. A descriptor is an object with the members `name`, `kind`,
`supertypes` and `fields`, of which only the name is needed; members with other names are passed,
and none of the four may come twice. Descriptors and their fields may also be written as lists of
their members' values in order. A kind is a string, or an object with that string as its only key
and a null as its value.
-/

set_option autoImplicit false

namespace RuleVocabulary

open Json

namespace Json

/-- Where a repeated member is noticed: behind the gap after its key, and behind the brace if the
object ends there. -/
def behindRepeated (text : List UInt8) : List UInt8 :=
  match skipBlank text with
  | 0x7D :: rest => rest
  | rest => rest

/-- Reads the value of a member that must not come twice. -/
def readOnce {α σ : Type} (key : String) (known : Option α) (value : List UInt8 → Read α)
    (store : α → σ) (text : List UInt8) : Read σ :=
  if known.isSome then fail (.duplicateField key) (behindRepeated text)
  else
    match skipColon text with
    | .error failure => .error failure
    | .ok start => (value start).map fun read => (store read.1, read.2)

/-- Passes the value of a member that nobody knows. -/
def skipMember {σ : Type} (state : σ) (text : List UInt8) : Read σ :=
  match skipColon text with
  | .error failure => .error failure
  | .ok start => (skipValue (enoughFuel start) start).map (state, ·)

/-- Reads an element of a list that holds the members of a record in order. -/
def readPart {α : Type} (first : Bool) (value : List UInt8 → Read α)
    (absent : List UInt8 → Read α) (text : List UInt8) : Read α :=
  match nextElement first text with
  | .error failure => .error failure
  | .ok (some start) => value start
  | .ok none => absent text

/-- An element that may be absent. -/
def orDefault {α : Type} (value : α) (text : List UInt8) : Read α :=
  .ok (value, text)

/-- An element that must be there: `found` elements came before it. -/
def orTooShort {α : Type} (found : Nat) (wanted : String) (text : List UInt8) : Read α :=
  fail (.wrongLength found wanted) (behindBracket text)

/-- Reads a record, which is written as an object or as a list. -/
def readRecord {α : Type} (wanted : String) (fromMembers fromList : List UInt8 → Read α)
    (text : List UInt8) : Read α :=
  match skipBlank text with
  | [] => fail .endInValue []
  | 0x7B :: rest => fromMembers rest
  | 0x5B :: rest =>
    match fromList rest with
    | .error failure => .error failure
    | .ok (value, behind) => (endList behind).map (value, ·)
  | other => failType wanted other

end Json

/-! ## Fields -/

namespace FieldDeclaration

/-- The members of a field read so far. -/
structure Partial where
  name : Option String
  typeName : Option String

/-- Reads one member of a field. -/
def readMember (key : String) (known : Partial) (text : List UInt8) : Read Partial :=
  if key = "name" then
    readOnce key known.name (readText "a string") (fun value => { known with name := some value })
      text
  else if key = "type" then
    readOnce key known.typeName (readText "a string")
      (fun value => { known with typeName := some value }) text
  else skipMember known text

/-- Reads a field from behind its brace. -/
def readMembers (text : List UInt8) : Read FieldDeclaration :=
  match Json.readMembers readMember (enoughFuel text) true ⟨none, none⟩ text with
  | .error failure => .error failure
  | .ok (known, rest) =>
    match known.name, known.typeName with
    | none, _ => fail (.missingField "name") rest
    | _, none => fail (.missingField "type") rest
    | some name, some typeName => .ok (⟨name, typeName⟩, rest)

/-- Reads a field from behind its bracket. -/
def readList (text : List UInt8) : Except Failure (FieldDeclaration × List UInt8) := do
  let wanted := "struct FieldDecl with 2 elements"
  let (name, rest) ← readPart true (readText "a string") (orTooShort 0 wanted) text
  let (typeName, rest) ← readPart false (readText "a string") (orTooShort 1 wanted) rest
  return (⟨name, typeName⟩, rest)

/-- Reads a field. -/
def read (text : List UInt8) : Read FieldDeclaration :=
  readRecord "struct FieldDecl" readMembers readList text

/-- A field as JSON. -/
def toJson (field : FieldDeclaration) : Value :=
  .object [("name", .string field.name), ("type", .string field.typeName)]

end FieldDeclaration

/-! ## Kinds -/

namespace Kind

/-- Reads the name of a kind. -/
def readLabel (text : List UInt8) : Read Kind :=
  match readText "variant identifier" text with
  | .error failure => .error failure
  | .ok (label, rest) =>
    match ofLabel? label with
    | some kind => .ok (kind, rest)
    | none => fail (.unknownVariant label (all.map Kind.label)) rest

/-- Reads a kind. -/
def read (text : List UInt8) : Except Failure (Kind × List UInt8) :=
  match skipBlank text with
  | [] => fail .endInValue []
  | 0x22 :: rest => readLabel (0x22 :: rest)
  | 0x7B :: rest => do
    let (kind, behind) ←
      match skipBlank rest with
      | [] => fail .endInObject []
      | 0x22 :: label => readLabel (0x22 :: label)
      | 0x7D :: closed => fail .expectedValue closed
      | other => failBehind .keyNotString other
    let value ← skipColon behind
    let (_, last) ← readNull value
    match skipBlank last with
    | [] => fail .endInObject []
    | 0x7D :: closed => .ok (kind, closed)
    | other => fail .expectedValue other
  | other => failBehind .expectedValue other

end Kind

/-! ## Descriptors -/

namespace Descriptor

/-- The members of a descriptor read so far. -/
structure Partial where
  name : Option String
  kind : Option Kind
  supertypes : Option (List String)
  fields : Option (List FieldDeclaration)

/-- Reads one member of a descriptor. -/
def readMember (key : String) (known : Partial) (text : List UInt8) : Read Partial :=
  if key = "name" then
    readOnce key known.name (readText "a string") (fun value => { known with name := some value })
      text
  else if key = "kind" then
    readOnce key known.kind Kind.read (fun value => { known with kind := some value }) text
  else if key = "supertypes" then
    readOnce key known.supertypes (readList (readText "a string"))
      (fun value => { known with supertypes := some value }) text
  else if key = "fields" then
    readOnce key known.fields (readList FieldDeclaration.read)
      (fun value => { known with fields := some value }) text
  else skipMember known text

/-- Reads a descriptor from behind its brace. -/
def readMembers (text : List UInt8) : Read Descriptor :=
  match Json.readMembers readMember (enoughFuel text) true ⟨none, none, none, none⟩ text with
  | .error failure => .error failure
  | .ok (known, rest) =>
    match known.name with
    | none => fail (.missingField "name") rest
    | some name =>
      .ok (⟨name, known.kind.getD .classType, known.supertypes.getD [], known.fields.getD []⟩,
        rest)

/-- Reads a descriptor from behind its bracket. -/
def readElements (text : List UInt8) : Except Failure (Descriptor × List UInt8) := do
  let wanted := "struct TypeDescriptor with 4 elements"
  let (name, rest) ← readPart true (readText "a string") (orTooShort 0 wanted) text
  let (kind, rest) ← readPart false Kind.read (orDefault .classType) rest
  let (supertypes, rest) ← readPart false (readList (readText "a string")) (orDefault []) rest
  let (fields, rest) ← readPart false (readList FieldDeclaration.read) (orDefault []) rest
  return (⟨name, kind, supertypes, fields⟩, rest)

/-- Reads a descriptor. -/
def read (text : List UInt8) : Read Descriptor :=
  readRecord "struct TypeDescriptor" readMembers readElements text

/-- Reads a stored descriptor. -/
def ofJson (text : List UInt8) : Except Failure Descriptor :=
  readWholeText read text

/-- A descriptor as JSON, with all its members. -/
def toJson (descriptor : Descriptor) : Value :=
  .object [
    ("name", .string descriptor.name),
    ("kind", .string descriptor.kind.label),
    ("supertypes", Value.strings descriptor.supertypes),
    ("fields", .array (descriptor.fields.map FieldDeclaration.toJson))]

/-- A descriptor as it is stored. -/
def stored (descriptor : Descriptor) : List UInt8 :=
  descriptor.toJson.compact

end Descriptor

end RuleVocabulary
