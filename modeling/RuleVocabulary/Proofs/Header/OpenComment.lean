import Mathlib.Data.List.Infix
import RuleVocabulary.Proofs.Header.Concatenation

/-!
# Headers that cannot be read

Every character may stand in a statement that is not recognized, save for the end of a line and a
semicolon, which are a gap and a statement of their own, and for the beginning of a block comment.
A closed comment is a gap again. So reading gets stuck in front of a block comment that is never
closed and nowhere else (`opensComment_of_stuck`). The place that is reported is the furthest one
that any attempt reached, hence never before that comment (`length_expectation_rest_le`).

Main statement: a header whose comments are all closed can be read, a header that cannot be read
names a place that is not before an open comment, and an open comment behind a header without
problems cannot be read (`only_open_comments_are_fatal`).
-/

set_option autoImplicit false

namespace RuleVocabulary.Header

open Text (Place)

variable {text rest : List Char}

/-! ## Where reading gets stuck -/

/-- A character at which no statement can start: it is skipped, or a semicolon, or it begins a
block comment. -/
theorem unrecognizedPart_eq_nil_cons {c : Char} (missing : (unrecognizedPart (c :: rest)).1 = []) :
    endsLine c = true ∨ c = ';' ∨ (c = '/' ∧ rest.head? = some '*') := by
  rw [unrecognizedPart] at missing
  split at missing
  · rename_i stops
    simpa [or_assoc] using stops
  · cases missing

/-- **Where nothing can be skipped and no statement starts, a comment is left open.** -/
theorem opensComment_of_no_statement (solid : skipGap text = text) (nonempty : text ≠ [])
    (missing : readStatement text = none) : OpensComment text := by
  rw [readStatement_eq, Option.or_eq_none_iff, Option.or_eq_none_iff] at missing
  obtain ⟨-, noEmpty, noPart⟩ := missing
  rcases text with _ | ⟨c, rest⟩
  · exact absurd rfl nonempty
  rcases unrecognizedPart_eq_nil_cons (readUnrecognized_eq_none_iff.mp noPart) with ends | rfl | ⟨rfl, star⟩
  · have blank := isGapBlank_of_endsLine ends
    rw [isGapBlank_of_solid solid] at blank
    cases blank
  · cases noEmpty
  · obtain ⟨inside, rfl⟩ := List.head?_eq_some_iff.mp star
    exact opensComment_of_solid solid

/-- Reading gets stuck in front of a comment that is left open. -/
theorem opensComment_of_stuck (stuck : (outline text).2 ≠ []) : OpensComment (outline text).2 := by
  fun_induction outline text with
  | case1 text statement rest found _ more ih => exact ih stuck
  | case2 text missing =>
      exact opensComment_of_no_statement (skipGap_skipGap text) stuck missing

/-! ## The place that is reported -/

theorem foldl_min_left_le (attempts : List Attempt) (bound : Nat) :
    attempts.foldl (fun least attempt => min least attempt.left) bound ≤ bound := by
  induction attempts generalizing bound with
  | nil => exact Nat.le_refl bound
  | cons attempt attempts ih => exact (ih _).trans (Nat.min_le_left ..)

/-- What was expected was missing where reading got stuck, or further on. -/
theorem length_expectation_rest_le (text : List Char) (statements : List Located)
    {stuck : List Char} (within : stuck.length ≤ text.length) :
    (expectation text statements stuck).rest.length ≤ stuck.length := by
  have least := foldl_min_left_le
    ((statements.map Located.start ++ [stuck]).flatMap statementAttempts) stuck.length
  simp only [expectation, List.length_drop]
  omega

/-- Of two endings of a text, the shorter one begins at a later place. -/
theorem past_le_ofRest {before stuck : List Char} (shorter : rest.length ≤ stuck.length) :
    Place.past before ≤ Place.ofRest (before ++ stuck) rest := by
  have passed : (before ++ stuck).take ((before ++ stuck).length - rest.length) =
      before ++ stuck.take (stuck.length - rest.length) := by
    rw [List.length_append, Nat.add_sub_assoc shorter, List.take_length_add_append]
  rw [Place.ofRest, passed]
  exact Place.past_le_append before _

/-! ## What can be read -/

/-- Every comment that is opened is closed again: behind every `/*` there is a `*/`. -/
def ClosesComments (text : List Char) : Prop :=
  ∀ behind, '/' :: '*' :: behind <:+ text → ['*', '/'] <:+: behind

instance : DecidablePred ClosesComments := fun text =>
  decidable_of_iff (∀ ending ∈ text.tails, ['/', '*'] <+: ending → ['*', '/'] <:+: ending.drop 2) (by
    simp only [ClosesComments, List.mem_tails]
    constructor
    · intro closes behind opened
      exact closes _ opened ⟨behind, rfl⟩
    · rintro closes _ opened ⟨behind, rfl⟩
      exact closes behind opened)

theorem not_opensComment_of_closes (closes : ClosesComments text) (ending : rest <:+ text) :
    ¬ OpensComment rest := by
  rintro ⟨inside, rfl, plain⟩
  exact plain (closes inside ending)

theorem reads_of_closes (closes : ClosesComments text) :
    ∃ reading, Reading.ofChars text = .ok reading := by
  have whole : (outline text).2 = [] := by
    by_contra stuck
    exact not_opensComment_of_closes closes (outline_suffix text) (opensComment_of_stuck stuck)
  exact ⟨_, Reading.ofChars_eq_ok_iff.mpr ⟨(outline text).1, Prod.ext rfl whole, rfl⟩⟩

/-- A header that cannot be read leaves a comment open, and the place that is reported is not
before it. -/
theorem opened_of_fault {fault : Fault} (failed : Reading.ofChars text = .error fault) :
    ∃ before inside message line column,
      text = before ++ '/' :: '*' :: inside ∧ ¬ ['*', '/'] <:+: inside ∧
        fault = .parse message (some line) (some column) ∧
        Place.past before ≤ ⟨line, column⟩ := by
  have stuck : (outline text).2 ≠ [] := Reading.exists_error_iff.mp ⟨fault, failed⟩
  obtain ⟨inside, opened, plain⟩ := opensComment_of_stuck stuck
  obtain ⟨before, whole⟩ := outline_suffix text
  -- the attempts go at least as far as reading did
  have further := length_expectation_rest_le text (outline text).1 (outline_suffix text).length_le
  have place : Place.past before ≤ _ := past_le_ofRest further
  rw [whole] at place
  rw [opened] at whole
  simp only [Reading.ofChars] at failed
  rw [if_neg (by simpa using stuck)] at failed
  obtain rfl := Except.error.inj failed
  exact ⟨before, inside, _, _, _, whole.symm, plain, rfl, place⟩

/-- A comment that is left open behind finished statements makes a header fail. -/
theorem fails_behind_finished {statements : List Located} (outlined : outline text = (statements, []))
    (quiet : ∀ located ∈ statements, located.statement.complaint? = none) {inside : List Char}
    (plain : ¬ ['*', '/'] <:+: inside) :
    ∃ fault, Reading.ofChars (text ++ '\n' :: '/' :: '*' :: inside) = .error fault := by
  have solid : skipGap ('\n' :: '/' :: '*' :: inside) = '/' :: '*' :: inside := by
    rw [skipGap_newline, skipGap_block_open (afterComment?_eq_none_iff.mpr plain)]
  have opens : OpensComment (skipGap ('\n' :: '/' :: '*' :: inside)) := by
    rw [solid]
    exact ⟨inside, rfl, plain⟩
  have inert : word? (skipGap ('\n' :: '/' :: '*' :: inside)) = none := by
    rw [solid]
    rfl
  have noSemicolon : ∀ behind, skipGap ('\n' :: '/' :: '*' :: inside) ≠ ';' :: behind := by
    rw [solid]
    exact nofun
  obtain ⟨behind, here, longer⟩ :=
    outline_of_finished ⟨'\n', _, rfl, rfl⟩ inert outlined quiet
  have same : skipGap behind = '/' :: '*' :: inside := by
    rcases here with rfl | rfl
    · exact solid
    · rw [skipSemicolon_of_ne noSemicolon, skipGap_skipGap, solid]
  rw [Reading.exists_error_iff, longer, outline_congr (same.trans solid.symm),
    outline_of_opensComment opens, solid]
  exact List.cons_ne_nil '/' ('*' :: inside)

/-- **Only a comment that is left open makes a header fail.** -/
theorem only_open_comments_are_fatal (header : String) :
    (ClosesComments header.toList → ∃ reading, Reading.ofText header = .ok reading) ∧
      (∀ fault, Reading.ofText header = .error fault →
        ∃ before inside message line column,
          header.toList = before ++ '/' :: '*' :: inside ∧ ¬ ['*', '/'] <:+: inside ∧
            fault = .parse message (some line) (some column) ∧
            Place.past before ≤ ⟨line, column⟩) ∧
      ∀ reading, Reading.ofText header = .ok reading → reading.problems = [] →
        ∀ rest : String, ¬ ['*', '/'] <:+: rest.toList →
          ∃ fault, Reading.ofText (header ++ "\n/*" ++ rest) = .error fault := by
  refine ⟨reads_of_closes, fun fault => opened_of_fault, ?_⟩
  intro reading read clear rest plain
  obtain ⟨statements, outlined, rfl⟩ := Reading.ofChars_eq_ok_iff.mp read
  have fails := fails_behind_finished outlined (problems_eq_nil_iff.mp clear) plain
  have whole : (header ++ "\n/*" ++ rest).toList =
      header.toList ++ '\n' :: '/' :: '*' :: rest.toList := by
    simp
  rw [Reading.ofText, whole]
  exact fails

/-- A closed comment is read, and one that is left open behind a statement is not. -/
theorem comments_of_import :
    (∃ reading, Reading.ofText "/* a */import b" = .ok reading) ∧
      (∃ before inside message line column,
        "import b\n/* a".toList = before ++ '/' :: '*' :: inside ∧ ¬ ['*', '/'] <:+: inside ∧
          Fault.parse ("expected EOI, kw_package, kw_import, kw_global, kw_template, " ++
            "kw_directive, empty_statement, or unknown_statement") (some 2) (some 1) =
              .parse message (some line) (some column) ∧
          Place.past before ≤ ⟨line, column⟩) ∧
      ∃ fault, Reading.ofText ("import b" ++ "\n/*" ++ " a") = .error fault := by
  have closes : ClosesComments "/* a */import b".toList := by decide +kernel
  exact ⟨(only_open_comments_are_fatal _).1 closes,
    (only_open_comments_are_fatal "import b\n/* a").2.1 _ (by decide +kernel),
    (only_open_comments_are_fatal "import b").2.2 ⟨⟨none, ["b"], [], [], []⟩, []⟩
      (by decide +kernel) rfl " a" (by decide)⟩

end RuleVocabulary.Header
