import RuleVocabulary.Text.Quoted
import RuleVocabulary.Json.Number
import RuleVocabulary.Json.Text

/-!
# Reading JSON piece by piece

A JSON text is read from front to back into values of known types. This module holds the pieces:
blanks, literals, what stands between the elements of a list and the members of an object, values
that nobody wants, and the description of a value that is not of the wanted type. The first thing
that is wrong decides the failure, whatever follows it.
-/

set_option autoImplicit false

namespace RuleVocabulary.Json

/-- The blanks that JSON allows between its tokens. -/
def isBlank (byte : UInt8) : Bool :=
  byte = 0x20 || byte = 0x0A || byte = 0x09 || byte = 0x0D

/-- The text without the blanks in front. -/
def skipBlank (text : List UInt8) : List UInt8 :=
  text.dropWhile isBlank

/-- Passes the given letters of a literal. -/
def skipLetters : (letters text : List UInt8) → Except Failure (List UInt8)
  | [], text => .ok text
  | _ :: _, [] => fail .endInValue []
  | letter :: letters, byte :: rest =>
    if letter = byte then skipLetters letters rest else fail .expectedIdentifier rest

/-- The letters of `null` behind the first. -/
def nullLetters : List UInt8 := [0x75, 0x6C, 0x6C]

/-- The letters of `true` behind the first. -/
def trueLetters : List UInt8 := [0x72, 0x75, 0x65]

/-- The letters of `false` behind the first. -/
def falseLetters : List UInt8 := [0x61, 0x6C, 0x73, 0x65]

/-! ## Lists and objects -/

/-- Finds the next element of a list: the text it begins, or nothing at the end of the list. -/
def nextElement (first : Bool) (text : List UInt8) : Except Failure (Option (List UInt8)) :=
  match skipBlank text with
  | [] => fail .endInList []
  | byte :: rest =>
    if byte = 0x5D then .ok none
    else if first then .ok (some (byte :: rest))
    else if byte = 0x2C then
      match skipBlank rest with
      | [] => fail .endInValue []
      | next :: behind =>
        if next = 0x5D then fail .trailingComma behind else .ok (some (next :: behind))
    else fail .expectedCommaInList rest

/-- Passes the end of a list whose wanted elements have all been read. -/
def endList (text : List UInt8) : Except Failure (List UInt8) :=
  match skipBlank text with
  | [] => fail .endInList []
  | byte :: rest =>
    if byte = 0x5D then .ok rest
    else if byte = 0x2C then
      match skipBlank rest with
      | 0x5D :: behind => fail .trailingComma behind
      | behind => failBehind .trailingCharacters behind
    else fail .trailingCharacters rest

/-- Finds the next member of an object: the text behind the opening quote of its key, or nothing
at the end of the object. -/
def nextMember (first : Bool) (text : List UInt8) : Except Failure (Option (List UInt8)) :=
  match skipBlank text with
  | [] => fail .endInObject []
  | byte :: rest =>
    if byte = 0x7D then .ok none
    else if first then
      if byte = 0x22 then .ok (some rest) else fail .keyNotString rest
    else if byte = 0x2C then
      match skipBlank rest with
      | [] => fail .endInValue []
      | next :: behind =>
        if next = 0x22 then .ok (some behind)
        else if next = 0x7D then fail .trailingComma behind
        else fail .keyNotString behind
    else fail .expectedCommaInObject rest

/-- The text behind the bracket that closes a list or an object, which is the next token. -/
def behindBracket (text : List UInt8) : List UInt8 :=
  (skipBlank text).tail

/-- Passes the colon between a key and its value. -/
def skipColon (text : List UInt8) : Except Failure (List UInt8) :=
  match skipBlank text with
  | [] => fail .endInObject []
  | byte :: rest => if byte = 0x3A then .ok rest else fail .expectedColon rest

/-- Reads the elements of a list from behind its bracket, and passes its end. -/
def readElements {α : Type} (element : List UInt8 → Read α) :
    (fuel : Nat) → (first : Bool) → List UInt8 → Read (List α)
  | 0, _, text => fail .tooDeep text
  | fuel + 1, first, text =>
    match nextElement first text with
    | .error failure => .error failure
    | .ok none => .ok ([], behindBracket text)
    | .ok (some start) =>
      match element start with
      | .error failure => .error failure
      | .ok (value, rest) =>
        match readElements element fuel false rest with
        | .error failure => .error failure
        | .ok (values, last) => .ok (value :: values, last)

/-- Reads the members of an object from behind its brace, and passes its end. Each member turns
one state into the next, given its key and the text behind the key. -/
def readMembers {σ : Type} (member : String → σ → List UInt8 → Read σ) :
    (fuel : Nat) → (first : Bool) → σ → List UInt8 → Read σ
  | 0, _, _, text => fail .tooDeep text
  | fuel + 1, first, state, text =>
    match nextMember first text with
    | .error failure => .error failure
    | .ok none => .ok (state, behindBracket text)
    | .ok (some start) =>
      match readString start with
      | .error failure => .error failure
      | .ok (key, behind) =>
        match member key state behind with
        | .error failure => .error failure
        | .ok (next, rest) => readMembers member fuel false next rest

/-! ## Values that nobody wants -/

mutual

/-- Passes a value, looking at its syntax alone. -/
def skipValue : (fuel : Nat) → List UInt8 → Except Failure (List UInt8)
  | 0, text => fail .tooDeep text
  | fuel + 1, text =>
    match skipBlank text with
    | [] => fail .endInValue []
    | byte :: rest =>
      if byte = 0x6E then skipLetters nullLetters rest
      else if byte = 0x74 then skipLetters trueLetters rest
      else if byte = 0x66 then skipLetters falseLetters rest
      else if byte = 0x2D then skipNumber rest
      else if isDigit byte then skipNumber (byte :: rest)
      else if byte = 0x22 then skipString rest
      else if byte = 0x5B then
        match skipBlank rest with
        | [] => fail .endInList []
        | 0x5D :: behind => .ok behind
        | inside => skipElements fuel inside
      else if byte = 0x7B then
        match skipBlank rest with
        | [] => fail .endInObject []
        | 0x7D :: behind => .ok behind
        | inside => skipMembers fuel inside
      else fail .expectedValue rest

/-- Passes the elements of a list that is not empty, and its end. -/
def skipElements : (fuel : Nat) → List UInt8 → Except Failure (List UInt8)
  | 0, text => fail .tooDeep text
  | fuel + 1, text => do
    let rest ← skipValue fuel text
    match skipBlank rest with
    | [] => fail .endInList []
    | 0x5D :: behind => .ok behind
    | 0x2C :: behind => skipElements fuel behind
    | other => failBehind .expectedCommaInList other

/-- Passes the members of an object that is not empty, and its end. -/
def skipMembers : (fuel : Nat) → List UInt8 → Except Failure (List UInt8)
  | 0, text => fail .tooDeep text
  | fuel + 1, text =>
    match skipBlank text with
    | [] => fail .endInObject []
    | 0x22 :: key => do
      let behind ← skipString key
      let value ← skipColon behind
      let rest ← skipValue fuel value
      match skipBlank rest with
      | [] => fail .endInObject []
      | 0x7D :: last => .ok last
      | 0x2C :: next => skipMembers fuel next
      | other => failBehind .expectedCommaInObject other
    | other => failBehind .keyNotString other

end

/-- Fuel that suffices for anything that a text can hold. -/
def enoughFuel (text : List UInt8) : Nat :=
  2 * text.length + 2

/-! ## Values of the wrong type -/

/-- Describes the value at the front of a text. Literals, numbers and strings are read to their
ends; lists and objects are not opened. -/
def describe (text : List UInt8) : Read Found :=
  match text with
  | [] => fail .expectedValue []
  | byte :: rest =>
    if byte = 0x6E then (skipLetters nullLetters rest).map (.null, ·)
    else if byte = 0x74 then (skipLetters trueLetters rest).map (.boolean true, ·)
    else if byte = 0x66 then (skipLetters falseLetters rest).map (.boolean false, ·)
    else if byte = 0x2D then (readNumber true rest).map fun read => (read.1.found, read.2)
    else if isDigit byte then
      (readNumber false (byte :: rest)).map fun read => (read.1.found, read.2)
    else if byte = 0x22 then
      (readString rest).map fun read => (.string (Text.quoted read.1), read.2)
    else if byte = 0x5B then .ok (.sequence, byte :: rest)
    else if byte = 0x7B then .ok (.map, byte :: rest)
    else fail .expectedValue rest

/-- Fails because the value at the front of a text is not what is wanted. -/
def failType {α : Type} (wanted : String) (text : List UInt8) : Except Failure α :=
  match describe text with
  | .error failure => .error failure
  | .ok (found, rest) => fail (.wrongType found wanted) rest

/-! ## Wanted values -/

/-- Reads a string. -/
def readText (wanted : String) (text : List UInt8) : Read String :=
  match skipBlank text with
  | [] => fail .endInValue []
  | 0x22 :: rest => readString rest
  | other => failType wanted other

/-- Reads a list of values of one type. -/
def readList {α : Type} (element : List UInt8 → Read α) (text : List UInt8) : Read (List α) :=
  match skipBlank text with
  | [] => fail .endInValue []
  | 0x5B :: rest => readElements element (enoughFuel rest) true rest
  | other => failType "a sequence" other

/-- Reads a null. -/
def readNull (text : List UInt8) : Read Unit :=
  match skipBlank text with
  | [] => fail .endInValue []
  | 0x6E :: rest => (skipLetters nullLetters rest).map ((), ·)
  | other => failType "unit" other

/-- Reads a whole text with one value in it. -/
def readWholeText {α : Type} (value : List UInt8 → Read α) (text : List UInt8) :
    Except Failure α :=
  match value text with
  | .error failure => .error failure
  | .ok (result, rest) =>
    match skipBlank rest with
    | [] => .ok result
    | _ :: behind => fail .trailingCharacters behind

end RuleVocabulary.Json
