import RuleVocabulary.Yaml.Cursor

/-!
# Plain scalars in YAML

A plain scalar stands without quotes. It ends before a comment, before a colon that ends a key,
and between brackets and braces before their marks; it goes on over line ends as long as its lines
are indented. What separates its parts is blanks, or line ends that are folded.
-/

set_option autoImplicit false

namespace RuleVocabulary.Yaml

/-- Whether a character may stand in a plain scalar in front of the given text. -/
def mayBePlain (flow : Bool) (c : Char) (rest : List Char) : Bool :=
  if c = ':' && (isSpace (firstOf rest) || (flow && isFlowMark (firstOf rest))) then false
  else !(flow && isFlowMark c)

/-- The part of a plain scalar up to the next blank. -/
def plainRun (flow : Bool) : List Char → List Char
  | [] => []
  | c :: rest =>
    if isSpace c || !mayBePlain flow c rest then [] else c :: plainRun flow rest

/-- What separates two parts of a scalar: blanks on one line, or a line end and so many more. -/
structure Joint where
  blanks : List Char
  further? : Option Nat

namespace Joint

/-- What two parts without anything between them are separated by. -/
def nothing : Joint := ⟨[], none⟩

/-- What stands in the scalar between the parts. -/
def text (joint : Joint) : List Char :=
  match joint.further? with
  | none => joint.blanks
  | some further => folded further

end Joint

/-- Passes the blanks and line ends behind a part of a plain scalar. A tab may not indent a line
that holds something, but a comment may follow it on a line of its own. -/
def plainJoint (indent : Int) : (fuel : Nat) → Joint → Cursor → Option (Joint × Cursor)
  | 0, joint, cursor => some (joint, cursor)
  | fuel + 1, joint, cursor =>
    if cursor.char = '\n' then
      let further := if cursor.fresh then joint.further?.getD 0 + 1 else joint.further?.getD 0
      plainJoint indent fuel ⟨[], some further⟩ cursor.nextLine
    else if !isBlank cursor.char then some (joint, cursor)
    else if !cursor.fresh then
      plainJoint indent fuel { joint with blanks := joint.blanks ++ [cursor.char] } (cursor.skip 1)
    else if cursor.column < indent && cursor.char = '\t' then
      match cursor.spacing with
      | some spacing =>
        if endsLine spacing.cursor.char then plainJoint indent fuel joint spacing.cursor else none
      | none => none
    else plainJoint indent fuel joint (cursor.skip 1)

/-- Reads the parts of a plain scalar whose lines begin at the given column or behind it. -/
def plainParts (flow : Bool) (indent : Int) : (fuel : Nat) → Joint → Cursor →
    Option (List Char × Cursor)
  | 0, _, _ => none
  | fuel + 1, joint, cursor =>
    if (cursor.fresh && cursor.isFrame) || cursor.char = '#' then some ([], cursor)
    else if flow && cursor.char = '-' && isFlowMark cursor.second then none
    else
      let run := plainRun flow cursor.rest
      let text := if run.isEmpty then [] else joint.text ++ run
      let joint := if run.isEmpty then joint else .nothing
      let behind := if run.isEmpty then cursor else cursor.pass run.length
      if !(isBlank behind.char || behind.char = '\n') then some (text, behind)
      else
        match plainJoint indent (behind.rest.length + 1) joint behind with
        | none => none
        | some (joint, next) =>
          if !flow && next.column < indent then some (text, next)
          else (plainParts flow indent fuel joint next).map fun read => (text ++ read.1, read.2)

/-- Reads a plain scalar. The cursor behind it is fresh if the scalar ends with its line. -/
def readPlain (flow : Bool) (indent : Int) (cursor : Cursor) : Option (List Char × Cursor) :=
  if flow && cursor.column < indent then none
  else
    match plainParts flow indent (cursor.rest.length + 1) .nothing cursor with
    | some ([], _) => none
    | read => read

end RuleVocabulary.Yaml
