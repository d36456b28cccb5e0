import Std.Data.ExtTreeMap
import RuleVocabulary.Name
import RuleVocabulary.Registry.Basic

/-!
# Imports and the names they give

A header imports single types by their qualified names and whole packages by wildcards. Of two
types with one short name the later one counts; a package is kept once, where it was first
imported. A name as authors write it is then looked up in a fixed order of candidates: as written
if it is qualified, the imported type of that name, each imported package, the default namespace,
and the primitive keywords.
-/

set_option autoImplicit false

namespace RuleVocabulary

/-- What has been imported: qualified names by short name, and packages in order. -/
structure Imports where
  explicit : Std.ExtTreeMap String String compare
  packages : List String

namespace Imports

/-- Nothing has been imported. -/
def none : Imports := ⟨∅, []⟩

/-- Adds one import. -/
def add (imports : Imports) (target : String) : Imports :=
  match Name.wildcardPackage? target with
  | some package =>
    if package ∈ imports.packages then imports
    else { imports with packages := imports.packages ++ [package] }
  | .none => { imports with explicit := imports.explicit.insert (Name.short target) target }

/-- The imports of a sequence of targets. -/
def ofTargets (targets : List String) : Imports :=
  targets.foldl add none

/-- The qualified name that was imported for a short name. -/
def qualified? (imports : Imports) (name : String) : Option String :=
  imports.explicit[name]?

/-- The number of names and packages imported. -/
def size (imports : Imports) : Nat :=
  imports.explicit.size + imports.packages.length

end Imports

/-- Where names are resolved: what has been imported, and the settings. -/
structure Scope where
  imports : Imports
  settings : Settings

namespace Scope

/-- The name itself, or the qualified name that was imported for it. -/
def qualify (scope : Scope) (name : String) : String :=
  (scope.imports.qualified? name).getD name

/-- A list without the elements that repeat the one before them. -/
def dropRepeated : List String → List String
  | [] => []
  | [only] => [only]
  | first :: second :: rest =>
    if first = second then dropRepeated (second :: rest)
    else first :: dropRepeated (second :: rest)

/-- The qualified names that a name may stand for, in the order in which they are tried. -/
def candidates (scope : Scope) (name : String) : List String :=
  dropRepeated <|
    (if '.' ∈ name.toList then [name] else []) ++
    (scope.imports.qualified? name).toList ++
    scope.imports.packages.map (Name.join · name) ++
    (if scope.settings.defaultNamespace = "" then []
      else [Name.join scope.settings.defaultNamespace name]) ++
    (if scope.settings.isPrimitive name then [name] else [])

/-- A name as written, cut in front of its first bracket. -/
def cutBrackets (written : List Char) : List Char × List Char :=
  let name := Text.trim written
  (Text.trimEnd (name.takeWhile (· ≠ '[')), name.dropWhile (· ≠ '['))

/-- The first of several names that is known. One that cannot be read stops the search. -/
def firstKnown (registry : Registry) : List String → Except Fault (Option Descriptor)
  | [] => .ok none
  | name :: names =>
    match registry.lookup name with
    | .ok none => firstKnown registry names
    | answer => answer

/-- The type that a name stands for. -/
def resolve (scope : Scope) (registry : Registry) (name : String) :
    Except Fault (Option Descriptor) :=
  let cut := cutBrackets name.toList
  firstKnown registry
    ((scope.candidates (String.ofList cut.1)).map (· ++ String.ofList cut.2))

end Scope

end RuleVocabulary
