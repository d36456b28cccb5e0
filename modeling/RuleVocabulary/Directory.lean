/-!
# Files and their names

A directory is what can be read of it: for each path the bytes of a file, or nothing. The extension
of a path is what follows the last point of its last part. A part that begins with its only point
has none.
-/

set_option autoImplicit false

namespace RuleVocabulary

/-- What can be read under a path. -/
abbrev Directory := String → Option (List UInt8)

namespace Directory

/-- The directory in which nothing can be read. -/
def empty : Directory := fun _ => none

/-- The parts of a path between its slashes. -/
def parts : List Char → List (List Char)
  | [] => [[]]
  | '/' :: rest => [] :: parts rest
  | c :: rest =>
    match parts rest with
    | [] => [[c]]
    | part :: more => (c :: part) :: more

/-- The last part of a path, slashes at its end and steps to the same place left aside. -/
def lastPart (path : List Char) : List Char :=
  ((parts path).reverse.dropWhile fun part => part.isEmpty || part = ['.']).headD []

/-- The extension of a path. -/
def extension? (path : String) : Option String :=
  let name := lastPart path.toList
  let ending := (name.reverse.takeWhile (· ≠ '.')).reverse
  let stem := name.take (name.length - ending.length - 1)
  if name = ['.', '.'] || stem.isEmpty then none else some (String.ofList ending)

end Directory

end RuleVocabulary
