import RuleVocabulary.Datum.Basic
import RuleVocabulary.Decimal.Reading
import RuleVocabulary.Text.Blank

/-!
# Paths to data

The names in a source of settings are paths: `a.b` is the member `b` of the table `a`, and `a[2]`
is the third element of the list `a`. A name of any other form stands for itself. Setting what a
path leads to makes the tables and lists on the way, in place of anything else that is there; a
list gets as many elements as are needed.
-/

set_option autoImplicit false

namespace RuleVocabulary.Datum

/-- A step of a path. -/
inductive Step where
  | member (name : String)
  /-- An element of a list, counted from its end where the index is negative. -/
  | element (index : Int)
deriving DecidableEq, Repr

/-- The characters of the names in a path. -/
def isNameChar (c : Char) : Bool :=
  c.isAlphanum || c = '_' || c = '-'

/-- The index that stands between brackets. -/
def index? (text : List Char) : Option Int :=
  let isSpace (c : Char) : Bool := c = ' ' || c = '\t'
  let digits := Text.dropEndWhile isSpace (text.dropWhile isSpace)
  if digits.head? = some '+' then none else Decimal.integer? digits

theorem length_dropWhile_lt {test : Char → Bool} {c : Char} {text : List Char} :
    (text.dropWhile test).length < (c :: text).length :=
  Nat.lt_succ_of_le (List.dropWhile_suffix test).length_le

theorem length_tail_dropWhile_lt {test : Char → Bool} {c : Char} {text : List Char} :
    (text.dropWhile test).tail.length < (c :: text).length :=
  Nat.lt_of_le_of_lt (List.tail_suffix _).length_le length_dropWhile_lt

/-- The steps of a path in which each name has a point before it. -/
def steps? (text : List Char) : Option (List Step) :=
  match text with
  | [] => some []
  | '.' :: rest =>
    let name := rest.takeWhile isNameChar
    if name.isEmpty then none
    else (steps? (rest.dropWhile isNameChar)).map (.member (String.ofList name) :: ·)
  | '[' :: rest =>
    let inside := rest.takeWhile (· ≠ ']')
    if rest.contains ']' then
      match index? inside with
      | some index => (steps? (rest.dropWhile (· ≠ ']')).tail).map (.element index :: ·)
      | none => none
    else none
  | _ => none
termination_by text.length
decreasing_by
  · exact length_dropWhile_lt
  · exact length_tail_dropWhile_lt

/-- The path that a name stands for. -/
def path (name : String) : List Step :=
  (steps? ('.' :: name.toList)).getD [.member name]

/-- Sets the datum that a path leads to. -/
def assign (datum : Datum) : List Step → Datum → Datum
  | [], _ => datum
  | .member name :: path, old =>
    let inner := (old.members.lookup name).getD .null
    .table (Table.put name (assign datum path inner) old.members)
  | .element index :: path, old =>
    let missing := List.replicate
      (if 0 ≤ index then index.toNat + 1 - old.elements.length
        else index.natAbs - old.elements.length) Datum.null
    let elements := if 0 ≤ index then old.elements ++ missing else missing ++ old.elements
    let place := if 0 ≤ index then index.toNat else elements.length - index.natAbs
    .list (elements.set place (assign datum path (elements[place]?.getD .null)))

/-- Sets what the names of several data lead to, one after the other. -/
def assignAll (members : List (String × Datum)) (datum : Datum) : Datum :=
  members.foldl (fun datum member => assign member.2 (path member.1) datum) datum

/-- What a path leads to is found in the member that the path begins with. -/
theorem lookup_assign_member (datum old : Datum) (name : String) (path : List Step) :
    (assign datum (.member name :: path) old).members.lookup name =
      some (assign datum path ((old.members.lookup name).getD .null)) :=
  Table.lookup_put_self _ _ _

/-- Other members are as they were. -/
theorem lookup_assign_of_ne {name other : String} (different : other ≠ name) (datum old : Datum)
    (path : List Step) :
    (assign datum (.member name :: path) old).members.lookup other = old.members.lookup other :=
  Table.lookup_put_of_ne different _ _

end RuleVocabulary.Datum
