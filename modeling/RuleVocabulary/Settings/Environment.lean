import RuleVocabulary.Datum.Path

/-!
# Settings in environment variables

A variable whose name begins with `SUGGEST_`, in any case, sets what the rest of its name, in lower
case, leads to. Its value is a truth value or a number if it can be read as one, whatever the
setting; otherwise the values of settings that are lists are cut at each comma, and all others are
texts as they are.
-/

set_option autoImplicit false

namespace RuleVocabulary

/-- The variables of an environment, by their names. -/
abbrev Environment := List (String × String)

namespace Settings

/-- The names of the settings that are lists. -/
def listNames : List String := ["primitive_types", "ignored_members"]

/-- The beginning of the names of variables that are settings, in lower case. -/
def variableStart : List Char := ['s', 'u', 'g', 'g', 'e', 's', 't', '_']

/-- What a variable sets, by its name. -/
def variableTarget? (name : String) : Option String :=
  let lower := name.toList.map Char.toLower
  if variableStart.isPrefixOf lower then some (String.ofList (lower.drop variableStart.length))
  else none

/-- The datum of a value that is cut nowhere. -/
def variableScalar (value : String) : Datum :=
  let lower := value.toList.map Char.toLower
  if lower = ['t', 'r', 'u', 'e'] then .boolean true
  else if lower = ['f', 'a', 'l', 's', 'e'] then .boolean false
  else
    match Decimal.integer? value.toList, Decimal.float? value.toList with
    | some number, _ => .integer number
    | none, some number => .float number
    | none, none => .text value

/-- The datum of a variable's value. -/
def variableDatum (target value : String) : Datum :=
  match variableScalar value with
  | .text value =>
    if listNames.contains target then .list ((value.splitOn ",").map .text) else .text value
  | datum => datum

/-- What a variable sets, and to what. -/
def variableMember? (entry : String × String) : Option (String × Datum) :=
  (variableTarget? entry.1).map fun target => (target, variableDatum target entry.2)

/-- What the variables of an environment set. Of several with one target the last one counts. -/
def environmentData (environment : Environment) : List (String × Datum) :=
  Table.collect (environment.filterMap variableMember?)

end Settings

end RuleVocabulary
