import RuleVocabulary.Toml.Scalar
import RuleVocabulary.Toml.Text
import RuleVocabulary.Toml.Tree

/-!
# TOML documents

A document is a sequence of lines: keys with their values, headers of tables and of elements of
table series, comments and blank lines. Values are strings, plain values, lists and tables between
braces; the latter two may go over several lines, hold comments, and end with a comma. They are
nested no deeper than `depthLimit`. The mark that some editors put before the text is passed. A
table within the document may stand for a moment (`withMoments?`). A document is read as a whole or
not at all (`members?`).
-/

set_option autoImplicit false

namespace RuleVocabulary.Toml

/-- How many lists and tables between braces may be nested. -/
def depthLimit : Nat := 80

mutual

/-- Reads a value. -/
def readValue : (fuel depth : Nat) → List Char → Option (Datum × List Char)
  | 0, _, _ => none
  | _, _, [] => none
  | fuel + 1, depth, c :: rest =>
    if c = '"' || c = '\'' then
      (readQuoted c rest).map fun read => (.text (String.ofList read.1), read.2)
    else if c = '[' then
      if depth = 0 then none
      else (readElements fuel (depth - 1) rest).map fun read => (.list read.1, read.2)
    else if c = '{' then
      if depth = 0 then none
      else
        (readMembers fuel (depth - 1) [] rest).map fun read =>
          (.table (membersData read.1), read.2)
    else readScalar (c :: rest)

/-- Reads the elements of a list from behind its bracket or a comma, and passes its end. -/
def readElements : (fuel depth : Nat) → List Char → Option (List Datum × List Char)
  | 0, _, _ => none
  | fuel + 1, depth, text =>
    match skipVoid false text with
    | some (']' :: behind) => some ([], behind)
    | some start =>
      match readValue fuel depth start with
      | some (datum, rest) =>
        match skipVoid false rest with
        | some (']' :: behind) => some ([datum], behind)
        | some (',' :: behind) =>
          (readElements fuel depth behind).map fun read => (datum :: read.1, read.2)
        | _ => none
      | none => none
    | none => none

/-- Reads the members of a table between braces from behind its brace or a comma, and passes its
end. -/
def readMembers : (fuel depth : Nat) → Members → List Char → Option (Members × List Char)
  | 0, _, _, _ => none
  | fuel + 1, depth, members, text =>
    match skipVoid false text with
    | some ('}' :: behind) => some (members, behind)
    | some start =>
      match readMember (skipVoid false) fuel depth [] members start with
      | some (members, rest) =>
        match skipVoid false rest with
        | some ('}' :: behind) => some (members, behind)
        | some (',' :: behind) => readMembers fuel depth members behind
        | _ => none
      | none => none
    | none => none

/-- Reads a key with its value into the table that a path leads to. What may stand around the sign
between them is passed by `skip`. -/
def readMember (skip : List Char → Option (List Char)) :
    (fuel depth : Nat) → (path : List String) → Members → List Char → Option (Members × List Char)
  | 0, _, _, _, _ => none
  | fuel + 1, depth, path, members, text =>
    match readPath text with
    | some (keys, rest) =>
      match skip rest with
      | some ('=' :: rest) =>
        match (skip rest).bind (readValue fuel depth) with
        | some (datum, behind) => (alter false (setDatum datum keys) path members).map (·, behind)
        | none => none
      | _ => none
    | none => none

end

/-- Reads lines into the table that the last header opened. -/
def readLines : (fuel : Nat) → (path : List String) → Members → List Char → Option Members
  | 0, _, _, _ => none
  | fuel + 1, path, members, text =>
    match skipVoid false text with
    | none => none
    | some [] => some members
    | some ('[' :: '[' :: rest) =>
      match readPath (skipBlank rest) with
      | some (keys, ']' :: ']' :: behind) => do
        readLines fuel keys (← openElement keys members) (← skipLine false behind)
      | _ => none
    | some ('[' :: rest) =>
      match readPath (skipBlank rest) with
      | some (keys, ']' :: behind) => do
        readLines fuel keys (← openTable keys members) (← skipLine false behind)
      | _ => none
    | some start => do
      let (members, behind) ←
        readMember (fun text => some (skipBlank text)) fuel depthLimit path members start
      readLines fuel path members (← skipLine false behind)

/-! ## Moments in tables -/

/-- The name under which a table may hold a moment in place of members. -/
def momentName : String := "$__toml_private_datetime"

mutual

/-- The datum in which each table that holds a moment has become that moment. A table does if none
of its names comes before `momentName`; the member of that name must then write a moment. -/
def withMoments? : Datum → Option Datum
  | .list elements => (elementsWithMoments? elements).map .list
  | .table members =>
    match members.lookup momentName, members.any (·.1 < momentName) with
    | some (.text written), false => (moment? written.toList).map .text
    | some _, false => none
    | _, _ => (membersWithMoments? members).map .table
  | datum => some datum

/-- The elements of a list in which tables with moments have become these. -/
def elementsWithMoments? : List Datum → Option (List Datum)
  | [] => some []
  | element :: elements => do
    return (← withMoments? element) :: (← elementsWithMoments? elements)

/-- The members of a table in which tables with moments have become these. -/
def membersWithMoments? : List (String × Datum) → Option (List (String × Datum))
  | [] => some []
  | (name, datum) :: members => do
    return (name, ← withMoments? datum) :: (← membersWithMoments? members)

end

/-- The members of the table that a document describes. -/
def members? (document : String) : Option (List (String × Datum)) :=
  let text := match document.toList with
    | '\uFEFF' :: rest => rest
    | text => text
  (readLines (4 * text.length + 4) [] [] text).bind fun members =>
    membersWithMoments? (membersData members)

end RuleVocabulary.Toml
