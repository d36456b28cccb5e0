/-!
# Why a JSON text cannot be read

A failure is a cause together with the bytes that were left when it was noticed. Its line and
column follow from these: lines count from one, and the column is the number of bytes read on the
line.
-/

set_option autoImplicit false

namespace RuleVocabulary.Json

/-- A value that stands where another kind of value is wanted. -/
inductive Found where
  | null
  | boolean (value : Bool)
  | integer (value : Int)
  /-- A number with a fraction or an exponent, as it is shown. -/
  | float (shown : String)
  /-- A string, as it is shown. -/
  | string (shown : String)
  | sequence
  | map
deriving DecidableEq, Repr

namespace Found

/-- How a value of the wrong kind is described. -/
def describe : Found → String
  | null => "null"
  | boolean value => "boolean `" ++ (if value then "true" else "false") ++ "`"
  | integer value => "integer `" ++ toString value ++ "`"
  | float shown => "floating point `" ++ shown ++ "`"
  | string shown => "string " ++ shown
  | sequence => "sequence"
  | map => "map"

end Found

/-- What may be wrong with a JSON text. -/
inductive Cause where
  | endInValue
  | endInObject
  | endInList
  | endInString
  | expectedValue
  | expectedIdentifier
  | expectedColon
  | expectedCommaInObject
  | expectedCommaInList
  | trailingComma
  | trailingCharacters
  | keyNotString
  | invalidNumber
  | numberOutOfRange
  | invalidEscape
  | loneSurrogate
  | endOfEscape
  | controlCharacter
  | invalidText
  | tooDeep
  /-- A value of one kind stands where another is wanted. -/
  | wrongType (found : Found) (wanted : String)
  /-- A list ends before all that is wanted was there. -/
  | wrongLength (found : Nat) (wanted : String)
  | missingField (name : String)
  | duplicateField (name : String)
  /-- A name is none of the known ones. -/
  | unknownVariant (name : String) (known : List String)
deriving DecidableEq, Repr

namespace Cause

/-- The text for a cause. -/
def message : Cause → String
  | endInValue => "EOF while parsing a value"
  | endInObject => "EOF while parsing an object"
  | endInList => "EOF while parsing a list"
  | endInString => "EOF while parsing a string"
  | expectedValue => "expected value"
  | expectedIdentifier => "expected ident"
  | expectedColon => "expected `:`"
  | expectedCommaInObject => "expected `,` or `\x7d`"
  | expectedCommaInList => "expected `,` or `]`"
  | trailingComma => "trailing comma"
  | trailingCharacters => "trailing characters"
  | keyNotString => "key must be a string"
  | invalidNumber => "invalid number"
  | numberOutOfRange => "number out of range"
  | invalidEscape => "invalid escape"
  | loneSurrogate => "lone leading surrogate in hex escape"
  | endOfEscape => "unexpected end of hex escape"
  | controlCharacter => "control character (\\u0000-\\u001F) found while parsing a string"
  | invalidText => "invalid unicode code point"
  | tooDeep => "recursion limit exceeded"
  | wrongType found wanted => "invalid type: " ++ found.describe ++ ", expected " ++ wanted
  | wrongLength found wanted =>
    "invalid length " ++ toString found ++ ", expected " ++ wanted
  | missingField name => "missing field `" ++ name ++ "`"
  | duplicateField name => "duplicate field `" ++ name ++ "`"
  | unknownVariant name known =>
    "unknown variant `" ++ name ++ "`, expected one of " ++
      ", ".intercalate (known.map fun one => "`" ++ one ++ "`")

end Cause

/-- A cause and the bytes left where it was noticed. -/
structure Failure where
  cause : Cause
  rest : List UInt8
deriving DecidableEq, Repr

/-- What comes of reading a piece of JSON: a result and the bytes behind it. -/
abbrev Read (α : Type) := Except Failure (α × List UInt8)

/-- Fails in front of the given bytes. -/
def fail {α : Type} (cause : Cause) (rest : List UInt8) : Except Failure α :=
  .error ⟨cause, rest⟩

/-- Fails behind the first of the given bytes, which is the one that is wrong. -/
def failBehind {α : Type} (cause : Cause) (rest : List UInt8) : Except Failure α :=
  .error ⟨cause, rest.tail⟩

namespace Failure

/-- The bytes of a text that were read before the failure was noticed. -/
def before (text : List UInt8) (failure : Failure) : List UInt8 :=
  text.take (text.length - failure.rest.length)

/-- The line on which a failure was noticed. -/
def line (text : List UInt8) (failure : Failure) : Nat :=
  1 + (failure.before text).count 0x0A

/-- The number of bytes read on that line. -/
def column (text : List UInt8) (failure : Failure) : Nat :=
  ((failure.before text).reverse.takeWhile (· != 0x0A)).length

/-- The text for a failure to read the given text. -/
def message (text : List UInt8) (failure : Failure) : String :=
  failure.cause.message ++ " at line " ++ toString (failure.line text) ++ " column " ++
    toString (failure.column text)

end Failure

end RuleVocabulary.Json
