import RuleVocabulary.Decimal.Reading
import RuleVocabulary.Text.Blank

/-!
# Dates and times in TOML

A date, a time of day, or both, the latter with or without an offset from universal time. Nothing
here computes with them: they are checked against the calendar and shown in one form, with a `T`
between date and time, with seconds and places behind these only if they are written, and with no
more of these places than are needed, one at least and nine at most. No offset is shown as negative
that is zero.
-/

set_option autoImplicit false

namespace RuleVocabulary.Toml

/-- Reads a number of so many digits. -/
def readDigits (count : Nat) (text : List Char) : Option (Nat × List Char) :=
  let digits := text.take count
  if digits.length = count && digits.all Char.isDigit then
    some (Decimal.value 10 digits, text.drop count)
  else none

/-- Passes a character. -/
def skipChar (c : Char) : List Char → Option (List Char)
  | [] => none
  | d :: rest => if c = d then some rest else none

/-- A number with leading zeros up to the given length. -/
def padded (length number : Nat) : String :=
  let digits := toString number
  String.ofList (List.replicate (length - digits.length) '0') ++ digits

/-- The number of days in a month. -/
def daysIn (year month : Nat) : Nat :=
  if month = 2 then
    if year % 4 = 0 && (year % 100 ≠ 0 || year % 400 = 0) then 29 else 28
  else if month = 4 || month = 6 || month = 9 || month = 11 then 30
  else 31

/-- Reads a date, as it is shown. -/
def readDate (text : List Char) : Option (String × List Char) := do
  let (year, text) ← readDigits 4 text
  let text ← skipChar '-' text
  let (month, text) ← readDigits 2 text
  let text ← skipChar '-' text
  let (day, text) ← readDigits 2 text
  if 1 ≤ month ∧ month ≤ 12 ∧ 1 ≤ day ∧ day ≤ daysIn year month then
    return (padded 4 year ++ "-" ++ padded 2 month ++ "-" ++ padded 2 day, text)
  else none

/-- Reads the places behind the seconds, as they are shown. -/
def readPlaces (text : List Char) : Option (String × List Char) :=
  match text with
  | '.' :: rest =>
    let digits := rest.takeWhile Char.isDigit
    let shown := Text.dropEndWhile (· = '0') (digits.take 9)
    if digits.isEmpty then none
    else
      some ("." ++ (if shown.isEmpty then "0" else String.ofList shown),
        rest.dropWhile Char.isDigit)
  | _ => some ("", text)

/-- Reads the seconds of a time of day, if there are any, as they are shown. -/
def readSeconds (text : List Char) : Option (String × List Char) := do
  match text with
  | ':' :: rest =>
    let (second, rest) ← readDigits 2 rest
    let (places, rest) ← readPlaces rest
    if second ≤ 60 then return (":" ++ padded 2 second ++ places, rest) else none
  | _ => return ("", text)

/-- Reads a time of day, as it is shown. -/
def readTime (text : List Char) : Option (String × List Char) := do
  let (hour, text) ← readDigits 2 text
  let text ← skipChar ':' text
  let (minute, text) ← readDigits 2 text
  let (seconds, text) ← readSeconds text
  if hour ≤ 23 ∧ minute ≤ 59 then
    return (padded 2 hour ++ ":" ++ padded 2 minute ++ seconds, text)
  else none

/-- Reads an offset up to the end of the text, as it is shown. -/
def offset? : List Char → Option String
  | [] => some ""
  | sign :: text =>
    if text.isEmpty && (sign = 'Z' || sign = 'z') then some "Z"
    else if sign = '+' || sign = '-' then do
      let (hour, text) ← readDigits 2 text
      let text ← skipChar ':' text
      let (minute, text) ← readDigits 2 text
      if hour ≤ 23 ∧ minute ≤ 59 ∧ text.isEmpty then
        let shown := if hour = 0 ∧ minute = 0 then '+' else sign
        return String.singleton shown ++ padded 2 hour ++ ":" ++ padded 2 minute
      else none
    else none

/-- What stands behind a date: nothing, or a time with or without an offset. -/
def behindDate? : List Char → Option String
  | [] => some ""
  | mark :: text =>
    if mark = 'T' || mark = 't' || mark = ' ' then do
      let (time, text) ← readTime text
      let offset ← offset? text
      return "T" ++ time ++ offset
    else none

/-- A date, a time, or both, as it is shown. -/
def moment? (text : List Char) : Option String :=
  match readDate text with
  | some (date, rest) => (behindDate? rest).map (date ++ ·)
  | none =>
    match readTime text with
    | some (time, []) => some time
    | _ => none

end RuleVocabulary.Toml
