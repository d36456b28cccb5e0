import RuleVocabulary.Datum.Basic

/-!
# Tables of a TOML document

While a document is read, its tables remember how they came about, because no table may be defined
twice. A header opens a table that at most other headers passed on their way; a key with points in
it makes tables of its own and sets members in those alone, though it may lead through tables that
headers passed; and a series of tables grows by headers of its own kind.
-/

set_option autoImplicit false

namespace RuleVocabulary.Toml

/-- How a table came about. -/
inductive Origin where
  /-- It has a header of its own. -/
  | opened
  /-- It lies on the way to a table with a header. -/
  | passed
  /-- A key with points in it made it. -/
  | dotted
deriving DecidableEq, Repr

/-- What stands under a key. -/
inductive Tree where
  | leaf (datum : Datum)
  | branch (origin : Origin) (members : List (String × Tree))
  | series (tables : List (List (String × Tree)))

/-- The members of a table. -/
abbrev Members := List (String × Tree)

mutual

/-- The datum of what stands under a key. -/
def Tree.datum : Tree → Datum
  | .leaf datum => datum
  | .branch _ members => .table (membersData members)
  | .series tables => .list (tablesData tables)

/-- The data of the members of a table. -/
def membersData : List (String × Tree) → List (String × Datum)
  | [] => []
  | (key, tree) :: members => (key, tree.datum) :: membersData members

/-- The data of the tables of a series. -/
def tablesData : List (List (String × Tree)) → List Datum
  | [] => []
  | members :: tables => .table (membersData members) :: tablesData tables

end

/-- Changes the table at the end of a path, making the tables on the way where there are none. Of
a series the last table counts. A key with points passes no table that has a header of its own, and
ends in none that it did not make. -/
def alter (dotted : Bool) (change : Members → Option Members) :
    List String → Members → Option Members
  | [], members => change members
  | key :: path, members =>
    match members.lookup key with
    | none =>
      (alter dotted change path []).map fun inner =>
        Table.put key (.branch (if dotted then .dotted else .passed) inner) members
    | some (.leaf _) => none
    | some (.branch origin inner) =>
      if dotted && (origin = .opened || (path.isEmpty && origin = .passed)) then none
      else
        (alter dotted change path inner).map fun inner =>
          Table.put key (.branch origin inner) members
    | some (.series tables) =>
      if dotted && path.isEmpty then none
      else
        (alter dotted change path (tables.getLast?.getD [])).map fun inner =>
          Table.put key (.series (tables.dropLast ++ [inner])) members

/-- Changes what stands under the last key of a path. -/
def alterLast (dotted : Bool) (change : Option Tree → Option Tree) (path : List String)
    (members : Members) : Option Members :=
  match path.getLast? with
  | none => none
  | some key =>
    alter dotted
      (fun members => (change (members.lookup key)).map fun tree => Table.put key tree members)
      path.dropLast members

/-- Sets the datum under a key with or without points in it, once only. -/
def setDatum (datum : Datum) (keys : List String) (members : Members) : Option Members :=
  alterLast true (fun old => if old.isSome then none else some (.leaf datum)) keys members

/-- Opens the table that a header names. -/
def openTable (path : List String) (members : Members) : Option Members :=
  alterLast false (fun
    | none => some (.branch .opened [])
    | some (.branch .passed inner) => some (.branch .opened inner)
    | some _ => none) path members

/-- Adds a table to the series that a header names. -/
def openElement (path : List String) (members : Members) : Option Members :=
  alterLast false (fun
    | none => some (.series [[]])
    | some (.series tables) => some (.series (tables ++ [[]]))
    | some _ => none) path members

end RuleVocabulary.Toml
