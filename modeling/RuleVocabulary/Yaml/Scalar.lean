import RuleVocabulary.Datum.Basic
import RuleVocabulary.Decimal.Reading
import RuleVocabulary.Yaml.Tag

/-!
# The meaning of scalars in YAML

A plain scalar without a tag may mean nothing, a truth value, a whole number or a number with a
fraction; all other scalars are text. A tag of the core set asks for one of these forms, and a
plain scalar that does not have it is unknown. A number with a fraction keeps its text, because
infinities have texts too but no datum.
-/

set_option autoImplicit false

namespace RuleVocabulary.Yaml

/-- What a scalar means. -/
inductive Scalar where
  | nothing
  | unknown
  | boolean (value : Bool)
  | integer (value : Int)
  | float (written : List Char)
  | text (value : String)
deriving DecidableEq, Repr

/-- The truth value that a text means. -/
def boolean? (word : String) : Option Bool :=
  if ["true", "True", "TRUE"].contains word then some true
  else if ["false", "False", "FALSE"].contains word then some false
  else none

/-- The texts of infinities and of what is no number. -/
def specialFloats : List String :=
  [".inf", ".Inf", ".INF", "+.inf", "+.Inf", "+.INF", "-.inf", "-.Inf", "-.INF", ".nan", ".NaN",
    ".NAN"]

/-- Whether a text means a number with a fraction. -/
def isFloat (text : List Char) : Bool :=
  specialFloats.contains (String.ofList text) ||
    (text.any Char.isDigit && (Decimal.float? text).isSome)

/-- A whole number behind something that tells how to read it: a base, or a plus sign, behind which
a sign may stand as well. -/
def markedInteger? : List Char → Option Int
  | '0' :: 'x' :: digits => Decimal.integerOf? 16 digits
  | '0' :: 'o' :: digits => Decimal.integerOf? 8 digits
  | '+' :: digits => Decimal.integer? digits
  | _ => none

namespace Scalar

/-- What a plain scalar without a tag means. -/
def ofPlain (text : List Char) : Scalar :=
  let word := String.ofList text
  match markedInteger? text, boolean? word, Decimal.integer? text with
  | some number, _, _ => .integer number
  | none, some value, _ => .boolean value
  | none, none, some number => .integer number
  | none, none, none =>
    if word = "" || word = "~" || word = "null" then .nothing
    else if isFloat text then .float text
    else .text word

/-- What a plain scalar with a tag means. -/
def ofTagged (tag : Tag) (text : List Char) : Scalar :=
  let word := String.ofList text
  if tag.handle ≠ coreSet then .text word
  else if tag.suffix = "bool" then ((boolean? word).map .boolean).getD .unknown
  else if tag.suffix = "int" then ((Decimal.integer? text).map .integer).getD .unknown
  else if tag.suffix = "float" then if isFloat text then .float text else .unknown
  else if tag.suffix = "null" then if word = "~" || word = "null" then .nothing else .unknown
  else .text word

/-- What a scalar means. -/
def ofText (tag? : Option Tag) (plain : Bool) (text : List Char) : Scalar :=
  if !plain then .text (String.ofList text)
  else
    match tag? with
    | some tag => ofTagged tag text
    | none => ofPlain text

/-- The datum of a scalar. -/
def datum? : Scalar → Option Datum
  | nothing | unknown => some .null
  | boolean value => some (.boolean value)
  | integer value => some (.integer value)
  | float written => (Decimal.float? written).map .float
  | text value => some (.text value)

/-- The name under which a member with the scalar for its key stands. -/
def name? : Scalar → Option String
  | nothing | unknown => none
  | boolean value => some (if value then "true" else "false")
  | integer value => some (toString value)
  | float written => some (String.ofList written)
  | text value => some value

end Scalar

end RuleVocabulary.Yaml
