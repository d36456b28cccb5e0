import Mathlib.Data.List.TakeWhile
import Mathlib.Data.List.Forall2
import RuleVocabulary.Header.Package
import RuleVocabulary.Proofs.Header.Statement
import RuleVocabulary.Proofs.Place

/-!
# What a reading is made of

A header is read if its statements take up all of it (`Reading.ofChars_eq_ok_iff`), and what is
read is put together from them: the package that they declare and one problem for each of them
that there is something to complain about. Two runs of statements declare one package followed by
the other (`Package.ofStatements_append`).

A problem knows its place twice, as a number and in its text. Below a line that is put in front,
both tell a lower line and the same column (`Problem.LoweredBy`, `problems_below`).
-/

set_option autoImplicit false

namespace RuleVocabulary.Header

open Text (Place)

variable {text : List Char}

/-! ## Readings and outlines -/

theorem Reading.ofChars_eq_ok_iff {reading : Reading} :
    Reading.ofChars text = .ok reading ↔
      ∃ statements, outline text = (statements, []) ∧
        reading = ⟨Package.ofStatements (statements.map Located.statement),
          statements.filterMap (·.problem? text)⟩ := by
  unfold Reading.ofChars
  rcases outlined : outline text with ⟨statements, _ | ⟨c, stuck⟩⟩ <;>
    simp [eq_comm]

/-- A header is refused if and only if some of it cannot be read. -/
theorem Reading.exists_error_iff :
    (∃ fault, Reading.ofChars text = .error fault) ↔ (outline text).2 ≠ [] := by
  unfold Reading.ofChars
  rcases outline text with ⟨statements, _ | ⟨c, stuck⟩⟩ <;> simp

/-- Without problems there is no statement to complain about. -/
theorem problems_eq_nil_iff {statements : List Located} :
    statements.filterMap (·.problem? text) = [] ↔
      ∀ located ∈ statements, located.statement.complaint? = none := by
  simp [List.filterMap_eq_nil_iff, Located.problem?]

/-! ## Packages -/

/-- What two headers declare one after the other. The name given last counts. -/
def Package.followedBy (first second : Package) : Package where
  name := second.name.or first.name
  imports := first.imports ++ second.imports
  functionImports := first.functionImports ++ second.functionImports
  globals := first.globals ++ second.globals
  templates := first.templates ++ second.templates

theorem Package.ofStatements_append (first second : List Statement) :
    Package.ofStatements (first ++ second) =
      (Package.ofStatements first).followedBy (Package.ofStatements second) := by
  simp [Package.ofStatements, Package.followedBy, List.filterMap_append, List.getLast?_append]

/-- What declares nothing can be left out in front. -/
theorem Package.followedBy_of_nothing (later : Package) :
    (⟨none, [], [], [], []⟩ : Package).followedBy later = later := by
  simp [followedBy]

/-- What declares nothing can be left out behind. -/
theorem Package.followedBy_nothing (package : Package) :
    package.followedBy ⟨none, [], [], [], []⟩ = package := by
  simp [followedBy]

/-- A lone semicolon declares nothing. -/
theorem Package.ofStatements_empty_cons (statements : List Statement) :
    Package.ofStatements (.empty :: statements) = Package.ofStatements statements :=
  rfl

/-- A statement that is not recognized declares nothing. -/
theorem Package.ofStatements_unrecognized_cons (part : String) (statements : List Statement) :
    Package.ofStatements (.unrecognized part :: statements) = Package.ofStatements statements :=
  rfl

/-! ## Problems on lower lines -/

/-- The same problem a number of lines further down: its place and the place that its message
tells are on a lower line and in the same column. -/
def Problem.LoweredBy (lines : Nat) (problem lower : Problem) : Prop :=
  ∃ complaint, lower.place = problem.place.lowered lines ∧
    problem.message = "line " ++ toString problem.place.line ++ ":" ++
      toString problem.place.column ++ " " ++ complaint ∧
    lower.message = "line " ++ toString (problem.place.line + lines) ++ ":" ++
      toString problem.place.column ++ " " ++ complaint

/-- A problem on a lower line tells which problem it was. -/
theorem Problem.eq_of_loweredBy {lines : Nat} {problem other lower : Problem}
    (one : problem.LoweredBy lines lower) (two : other.LoweredBy lines lower) :
    problem = other := by
  obtain ⟨complaint, place, message, message'⟩ := one
  obtain ⟨complaint', place', other', other''⟩ := two
  have here : problem.place = other.place := Place.lowered_injective (place.symm.trans place')
  rw [message', here, String.append_right_inj] at other''
  have said : problem.message = other.message := by
    rw [message, other', here, other'']
  cases problem
  cases other
  exact congrArg₂ Problem.mk said here

/-- **Statements that stand below a text have the same problems, only lower.** -/
theorem problems_below (before : List Char) {statements : List Located}
    (within : ∀ located ∈ statements, located.start <:+ text) :
    List.Forall₂ (Problem.LoweredBy (before.count '\n' + 1))
      (statements.filterMap (·.problem? text))
      (statements.filterMap (·.problem? (before ++ '\n' :: text))) := by
  induction statements with
  | nil => exact .nil
  | cons located statements ih =>
      have behind := ih fun other member => within other (List.mem_cons_of_mem _ member)
      obtain ⟨passed, whole⟩ := within located (List.mem_cons_self ..)
      have place : Place.ofRest text located.start = Place.past passed := by
        rw [← whole, Place.ofRest_append]
      have lower : Place.ofRest (before ++ '\n' :: text) located.start =
          (Place.past passed).lowered (before.count '\n' + 1) := by
        rw [← whole, ← List.cons_append, ← List.append_assoc, Place.ofRest_append, Place.past_below]
      cases complains : located.statement.complaint? with
      | none =>
          have quiet : ∀ text, located.problem? text = none := by simp [Located.problem?, complains]
          rw [List.filterMap_cons_none (quiet _), List.filterMap_cons_none (quiet _)]
          exact behind
      | some complaint =>
          have reported : ∀ text, located.problem? text = some
              ⟨"line " ++ toString (Place.ofRest text located.start).line ++ ":" ++
                toString (Place.ofRest text located.start).column ++ " " ++ complaint,
                Place.ofRest text located.start⟩ := by
            simp [Located.problem?, complains]
          rw [List.filterMap_cons_some (reported _), List.filterMap_cons_some (reported _), place,
            lower]
          exact .cons ⟨complaint, rfl, rfl, rfl⟩ behind

end RuleVocabulary.Header
