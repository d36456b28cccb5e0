import Mathlib.Data.List.Infix
import RuleVocabulary.Proofs.Header.Concatenation
import RuleVocabulary.Proofs.Header.Unfinished

/-!
# A line that cannot be recognized

A statement that cannot be recognized goes on to the end of its line, so it should cost that line
and nothing else. Put between two headers without problems, it does, unless the part that is
complained about becomes a declaration when the second header follows
(`unreadable_line_costs_itself_iff`). Then that declaration is read, and what it takes is missing
from the second header.

Main statement: a line costs only itself before every header if and only if the part complained
about does not break off within a declaration. Fields of a template are guarded against the
keywords of the next statement, and the other names that may be missing at the end of a line are
not.
-/

set_option autoImplicit false

namespace RuleVocabulary.Header

open Text (Place)

variable {text rest tail line : List Char} {statement : Statement}

/-! ## A single line -/

/-- A text on one line, without a semicolon or the beginning of a block comment. -/
structure PlainLine (text : List Char) : Prop where
  oneLine : ∀ c ∈ text, endsLine c = false
  noSemicolon : ';' ∉ text
  noComment : ¬ ['/', '*'] <:+: text

instance : DecidablePred PlainLine := fun text =>
  decidable_of_iff
    ((text.all fun c => !endsLine c && !decide (c = ';')) = true ∧ ¬ ['/', '*'] <:+: text) (by
      simp only [List.all_eq_true, Bool.and_eq_true, Bool.not_eq_true', decide_eq_false_iff_not]
      constructor
      · rintro ⟨plain, noComment⟩
        exact ⟨fun c member => (plain c member).1, fun member => (plain ';' member).2 rfl,
          noComment⟩
      · rintro ⟨oneLine, noSemicolon, noComment⟩
        refine ⟨fun c member => ⟨oneLine c member, ?_⟩, noComment⟩
        rintro rfl
        exact noSemicolon member)

theorem PlainLine.of_suffix (plain : PlainLine text) (ending : rest <:+ text) : PlainLine rest where
  oneLine c member := plain.oneLine c (ending.subset member)
  noSemicolon member := plain.noSemicolon (ending.subset member)
  noComment within := plain.noComment (within.trans ending.isInfix)

theorem PlainLine.neverOpens (plain : PlainLine text) : NeverOpens text := by
  rintro _ ending ⟨inside, rfl, -⟩
  exact (plain.of_suffix ending).noComment ⟨[], inside, rfl⟩

/-- All of the line is unrecognized, and nothing of what follows it. -/
theorem unrecognizedPart_append_of_plain (plain : PlainLine text)
    (stops : ∀ c ∈ tail.head?, endsLine c = true) :
    unrecognizedPart (text ++ tail) = (text, tail) := by
  induction text with
  | nil =>
      cases tail with
      | nil => rfl
      | cons c rest => simp [unrecognizedPart, stops c rfl]
  | cons c text ih =>
      have ends := plain.oneLine c (List.mem_cons_self ..)
      have other : c ≠ ';' := by
        rintro rfl
        exact plain.noSemicolon (List.mem_cons_self ..)
      have noStar : c = '/' → (text ++ tail).head? ≠ some '*' := by
        rintro rfl first
        rcases text with _ | ⟨d, text⟩
        · have ends := stops '*' first
          cases ends
        · obtain rfl := Option.some.inj first
          exact plain.noComment ⟨[], text, rfl⟩
      have behind := ih (plain.of_suffix (List.suffix_cons c text))
      rw [List.cons_append, unrecognizedPart, if_neg (by simpa [ends, other] using noStar), behind]

/-- A line in which no declaration can be read is a statement of its own. -/
theorem readStatement_append_of_plain (tail : List Char) (plain : PlainLine text)
    (nonempty : text ≠ []) (stops : ∀ c ∈ tail.head?, endsLine c = true)
    (missing : readDeclaration (text ++ tail) = none) :
    readStatement (text ++ tail) = some (.unrecognized (String.ofList text), tail) := by
  have noEmpty : readEmpty (text ++ tail) = none := by
    rcases text with _ | ⟨c, text⟩
    · exact absurd rfl nonempty
    · have other : c ≠ ';' := by
        rintro rfl
        exact plain.noSemicolon (List.mem_cons_self ..)
      simp [readEmpty, other]
  have part := unrecognizedPart_append_of_plain plain stops
  have unread : readUnrecognized (text ++ tail) =
      some (.unrecognized (String.ofList text), tail) := by
    rw [readUnrecognized_eq_some_iff, part]
    refine ⟨nonempty, rfl, .inr ⟨?_, rfl⟩⟩
    rintro further rfl
    cases stops ';' rfl
  rw [readStatement_eq, missing, noEmpty, unread]
  rfl

/-! ## The statements of the line -/

/-- A line that declares nothing and has a single problem. It is made of statements without one
and, behind them, the part that is complained about, up to the end of the line. -/
structure Unreadable (line : List Char) (problem : Problem) (clear : List Located)
    (part : List Char) : Prop where
  outlined : outline line = (clear ++ [⟨part, .unrecognized (String.ofList part)⟩], [])
  quiet : ∀ located ∈ clear, located.statement.complaint? = none
  empty : Package.ofStatements (clear.map Located.statement) = ⟨none, [], [], [], []⟩
  reported : Located.problem? line ⟨part, .unrecognized (String.ofList part)⟩ = some problem
  plain : PlainLine part
  nonempty : part ≠ []
  solid : skipGap part = part
  undeclared : readDeclaration part = none

/-- Only two kinds of statements are complained about. -/
theorem Statement.complaint?_cases {complaint : String}
    (complains : statement.complaint? = some complaint) :
    (∃ part, statement = .unrecognized part) ∨ ∃ declared, statement = .template declared false := by
  unfold complaint? at complains
  split at complains
  · exact .inl ⟨_, rfl⟩
  · exact .inr ⟨_, rfl⟩
  · cases complains

/-- What is reported of a line that declares nothing is a statement that is not recognized. -/
theorem unrecognized_of_reported {located : Located} {statements : List Located}
    {problem : Problem} (reported : located.problem? text = some problem)
    (member : located ∈ statements)
    (empty : Package.ofStatements (statements.map Located.statement) = ⟨none, [], [], [], []⟩) :
    ∃ part, located.statement = .unrecognized part := by
  obtain ⟨complaint, complains, -⟩ := Option.map_eq_some_iff.mp reported
  rcases Statement.complaint?_cases complains with unread | ⟨declared, template⟩
  · exact unread
  · have templates := congrArg Package.templates empty
    have none := List.filterMap_eq_nil_iff.mp templates located.statement
      (List.mem_map_of_mem member)
    rw [template] at none
    cases none

theorem readDeclaration_eq_none_of_unrecognized {part : String}
    (found : readStatement text = some (.unrecognized part, rest)) : readDeclaration text = none := by
  by_contra declared
  obtain ⟨⟨other, behind⟩, declared⟩ := Option.ne_none_iff_exists'.mp declared
  rw [readStatement_of_declaration declared] at found
  cases found
  exact readDeclaration_ne_unrecognized part declared

theorem exists_unreadable {problem : Problem} (plain : PlainLine line)
    (read : Reading.ofChars line = .ok ⟨⟨none, [], [], [], []⟩, [problem]⟩) :
    ∃ clear part, Unreadable line problem clear part := by
  obtain ⟨statements, outlined, same⟩ := Reading.ofChars_eq_ok_iff.mp read
  obtain ⟨package, problems⟩ := Reading.mk.inj same
  obtain ⟨clear, ⟨start, statement⟩, later, rfl, quiet, reported, -⟩ :=
    List.filterMap_eq_cons_iff.mp problems.symm
  obtain ⟨rest, solid, found, behind⟩ := readStatement_of_outline outlined
  have ending : start <:+ line := start_suffix_of_mem_outline line ⟨start, statement⟩
    (by rw [outlined]; simp)
  have plain' := plain.of_suffix ending
  have nonempty : start ≠ [] := (readable_of_readStatement found).nonempty
  obtain ⟨part, rfl⟩ := unrecognized_of_reported reported
    (List.mem_append_right clear (List.mem_cons_self ..)) package.symm
  have undeclared := readDeclaration_eq_none_of_unrecognized found
  have whole := readStatement_append_of_plain [] plain' nonempty
    (by intro c first; cases first) (by rwa [List.append_nil])
  rw [List.append_nil, found] at whole
  cases whole
  rw [outline_nil] at behind
  cases behind
  refine ⟨clear, start, outlined, ?_, ?_, reported, plain', nonempty, solid, undeclared⟩
  · exact problems_eq_nil_iff.mp (List.filterMap_eq_nil_iff.mpr quiet)
  · rw [List.map_append, Package.ofStatements_append] at package
    exact (Package.followedBy_nothing _).symm.trans package.symm

/-! ## The line before another header -/

/-- A statement keeps its problem when the header goes on behind it. -/
theorem problem?_before (located : Located) (ending : located.start <:+ text)
    (tail : List Char) : (located.before tail).problem? (text ++ tail) = located.problem? text := by
  obtain ⟨passed, whole⟩ := ending
  have place : Place.ofRest (text ++ tail) (located.start ++ tail) =
      Place.ofRest text located.start := by
    rw [← whole, Place.ofRest_append, List.append_assoc, Place.ofRest_append]
  rw [Located.problem?, Located.problem?, Located.before, place]

/-- One problem is one complaint. -/
theorem complaint?_eq_of_problem? {located other : Located} {problem : Problem}
    (one : located.problem? text = some problem) (two : other.problem? rest = some problem) :
    located.statement.complaint? = other.statement.complaint? := by
  obtain ⟨complaint, complains, rfl⟩ := Option.map_eq_some_iff.mp one
  obtain ⟨complaint', complains', same⟩ := Option.map_eq_some_iff.mp two
  obtain ⟨message, place⟩ := Problem.mk.inj same
  rw [place, String.append_right_inj] at message
  rw [complains, complains', message]

/-- A template is complained about in other words. -/
theorem complaint?_ne_of_declaration (declared : readDeclaration text = some (statement, rest))
    (part : String) : statement.complaint? ≠ (Statement.unrecognized part).complaint? := by
  intro same
  rcases Statement.complaint?_cases same with ⟨other, rfl⟩ | ⟨template, rfl⟩
  · exact readDeclaration_ne_unrecognized other declared
  · have letters := congrArg String.toList (Option.some.inj same)
    simp at letters

namespace Unreadable

variable {problem : Problem} {clear : List Located} {part second : List Char}

theorem readable (unreadable : Unreadable line problem clear part) : Readable part :=
  unreadable.plain.neverOpens.readable List.suffix_rfl unreadable.nonempty

theorem suffix (unreadable : Unreadable line problem clear part) : part <:+ line :=
  start_suffix_of_mem_outline line ⟨part, .unrecognized (String.ofList part)⟩
    (by rw [unreadable.outlined]; simp)

/-- The line before a tail has the same statements up to the part that is complained about. -/
theorem outline_append (unreadable : Unreadable line problem clear part)
    (breaks : BreaksLine tail) :
    outline (line ++ tail) =
      (clear.map (Located.before tail) ++ (outline (part ++ tail)).1,
        (outline (part ++ tail)).2) := by
  obtain ⟨left, further, continues, outlined, longer⟩ :=
    outline_of_continues breaks unreadable.quiet (fun none => absurd none (List.cons_ne_nil _ _))
      (.append breaks line) unreadable.outlined
  have stands : skipGap left = part := by
    rw [outline_eq] at outlined
    split at outlined
    · exact (Located.mk.inj (List.cons.inj (Prod.mk.inj outlined).1).1).1
    · cases outlined
  have readable := unreadable.readable
  rw [← stands] at readable
  have same : skipGap further = skipGap (part ++ tail) := by
    rw [← stands, ← continues.kept readable, skipGap_skipGap]
  rw [longer, outline_congr same]

/-- What is read from the part on, when a tail follows. -/
theorem outline_part (unreadable : Unreadable line problem clear part) (breaks : BreaksLine tail)
    (found : readStatement (part ++ tail) = some (statement, rest)) :
    outline (line ++ tail) =
      (clear.map (Located.before tail) ++ ⟨part ++ tail, statement⟩ :: (outline rest).1,
        (outline rest).2) := by
  have solid := skipGap_append_of_solid breaks unreadable.solid unreadable.readable
  rw [← solid] at found
  rw [unreadable.outline_append breaks, outline_of_statement found, solid]

/-- **Where the line is no declaration before the second header, it costs only itself.** -/
theorem reading_of_undeclared (unreadable : Unreadable line problem clear part) {later : Reading}
    (read : Reading.ofChars second = .ok later) (quiet : later.problems = [])
    (missing : readDeclaration (part ++ '\n' :: second) = none) :
    Reading.ofChars (line ++ '\n' :: second) = .ok ⟨later.package, [problem]⟩ := by
  obtain ⟨statements, outlined, rfl⟩ := Reading.ofChars_eq_ok_iff.mp read
  have breaks : BreaksLine ('\n' :: second) := ⟨'\n', second, rfl, rfl⟩
  have unread := readStatement_append_of_plain ('\n' :: second) unreadable.plain
    unreadable.nonempty (by rintro c first; cases first; rfl) missing
  have longer := unreadable.outline_part breaks unread
  rw [outline_congr (skipGap_newline second), outlined] at longer
  have own := problem?_before ⟨part, .unrecognized (String.ofList part)⟩
    unreadable.suffix ('\n' :: second)
  rw [unreadable.reported, Located.before] at own
  have others : statements.filterMap (·.problem? (line ++ '\n' :: second)) = [] :=
    problems_eq_nil_iff.mpr (problems_eq_nil_iff.mp quiet)
  refine Reading.ofChars_eq_ok_iff.mpr ⟨_, longer, ?_⟩
  rw [List.map_append, List.filterMap_append, map_statement_before, Package.ofStatements_append,
    unreadable.empty, Package.followedBy_of_nothing, problems_before_eq_nil unreadable.quiet,
    List.filterMap_cons_some own, others, List.map_cons, Package.ofStatements_unrecognized_cons,
    List.nil_append]

/-- What stands behind the part has its problems at later places. -/
theorem place_lt_of_behind (unreadable : Unreadable line problem clear part) {located : Located}
    (behind : located.start <:+ rest) (shorter : rest.length < (part ++ tail).length)
    (ending : rest <:+ part ++ tail) :
    problem.place < Place.ofRest (line ++ tail) located.start := by
  obtain ⟨before, whole⟩ := unreadable.suffix
  obtain ⟨complaint, -, same⟩ := Option.map_eq_some_iff.mp unreadable.reported
  have place : problem.place = Place.past before := by
    rw [← same, ← whole]
    exact Place.ofRest_append before part
  obtain ⟨passed, longer⟩ := behind.trans ending
  have nonempty : passed ≠ [] := by
    rintro rfl
    have less := behind.length_le
    rw [List.nil_append] at longer
    rw [longer] at less
    omega
  rw [place, ← whole, List.append_assoc, ← longer, ← List.append_assoc, Place.ofRest_append]
  exact Place.past_lt_append before nonempty

/-- Where the line becomes a declaration, its problem is not reported. -/
theorem problem_lost_of_declared (unreadable : Unreadable line problem clear part)
    (declared : readDeclaration (part ++ '\n' :: second) ≠ none) {whole : Reading}
    (read : Reading.ofChars (line ++ '\n' :: second) = .ok whole) :
    problem ∉ whole.problems := by
  obtain ⟨statements, outlined, rfl⟩ := Reading.ofChars_eq_ok_iff.mp read
  have breaks : BreaksLine ('\n' :: second) := ⟨'\n', second, rfl, rfl⟩
  obtain ⟨⟨statement, rest⟩, declared⟩ := Option.ne_none_iff_exists'.mp declared
  have found := readStatement_of_declaration declared
  have longer := unreadable.outline_part breaks found
  rw [outlined] at longer
  obtain ⟨rfl, -⟩ := Prod.mk.inj longer
  rw [List.filterMap_append, problems_before_eq_nil unreadable.quiet, List.nil_append]
  intro member
  obtain ⟨located, within, reported⟩ := List.mem_filterMap.mp member
  rcases List.mem_cons.mp within with rfl | behind
  · exact complaint?_ne_of_declaration declared _
      (complaint?_eq_of_problem? reported unreadable.reported)
  · have later := unreadable.place_lt_of_behind (start_suffix_of_mem_outline rest located behind)
      (length_readStatement_lt found) (readStatement_suffix found)
    obtain ⟨complaint, -, same⟩ := Option.map_eq_some_iff.mp reported
    rw [← same] at later
    exact Place.lt_irrefl _ later

end Unreadable

/-! ## The line between two headers -/

/-- Where the line becomes a declaration, it costs more than itself. -/
theorem Unreadable.not_isolated_of_declared {problem : Problem} {clear : List Located}
    {part first second : List Char} (unreadable : Unreadable line problem clear part)
    (declared : readDeclaration (part ++ '\n' :: second) ≠ none) {reading : Reading}
    (read : Reading.ofChars first = .ok reading) (quiet : reading.problems = [])
    {lower : Problem} (lowered : problem.LoweredBy (first.count '\n' + 2) lower)
    (package : Package) :
    Reading.ofChars (first ++ '\n' :: ';' :: '\n' :: (line ++ '\n' :: second)) ≠
      .ok ⟨package, [lower]⟩ := by
  intro reads
  cases further : Reading.ofChars (line ++ '\n' :: second) with
  | error fault =>
      obtain ⟨fault', fails⟩ := (fault_joined read quiet _).mpr ⟨fault, further⟩
      rw [reads] at fails
      cases fails
  | ok whole =>
      obtain ⟨problems, reads', lowered'⟩ := reading_joined read quiet further
      rw [reads] at reads'
      obtain ⟨-, rfl⟩ := Reading.mk.inj (Except.ok.inj reads')
      obtain ⟨own, others, one, -, here⟩ := List.forall₂_cons_right_iff.mp lowered'
      obtain rfl := Problem.eq_of_loweredBy lowered one
      exact unreadable.problem_lost_of_declared declared further
        (by rw [here]; exact List.mem_cons_self ..)

/-- **An unreadable line costs only itself, unless it becomes a declaration.** -/
theorem unreadable_line_costs_itself_iff {line : String} {problem : Problem}
    (plain : PlainLine line.toList)
    (read : Reading.ofText line = .ok ⟨⟨none, [], [], [], []⟩, [problem]⟩) :
    ∃ before part, line.toList = before ++ part ∧ problem.place = Place.past before ∧
      (∀ {first second : String} {reading later : Reading},
        Reading.ofText first = .ok reading → reading.problems = [] →
        Reading.ofText second = .ok later → later.problems = [] →
          ((∃ lower, problem.LoweredBy (first.toList.count '\n' + 2) lower ∧
              Reading.ofText (first ++ "\n;\n" ++ line ++ "\n" ++ second) =
                .ok ⟨reading.package.followedBy later.package, [lower]⟩) ↔
            readDeclaration (part ++ '\n' :: second.toList) = none)) ∧
      ((∀ (second : String) (later : Reading),
          Reading.ofText second = .ok later → later.problems = [] →
            readDeclaration (part ++ '\n' :: second.toList) = none) ↔
        ¬ Unfinished part) := by
  obtain ⟨clear, part, unreadable⟩ := exists_unreadable plain read
  obtain ⟨before, whole⟩ := unreadable.suffix
  refine ⟨before, part, whole.symm, ?_, ?_, ?_, ?_⟩
  · obtain ⟨complaint, -, same⟩ := Option.map_eq_some_iff.mp unreadable.reported
    rw [← same, ← whole]
    exact Place.ofRest_append before part
  · intro first second reading later readFirst clearFirst readSecond clearSecond
    have joined : (first ++ "\n;\n" ++ line ++ "\n" ++ second).toList =
        first.toList ++ '\n' :: ';' :: '\n' :: (line.toList ++ '\n' :: second.toList) := by
      simp
    simp only [Reading.ofText, joined]
    constructor
    · rintro ⟨lower, lowered, reads⟩
      -- a declaration in place of the part takes its complaint away
      by_contra declared
      exact unreadable.not_isolated_of_declared declared readFirst clearFirst lowered _ reads
    · intro missing
      obtain ⟨problems, reads, lowered⟩ := reading_joined readFirst clearFirst
        (unreadable.reading_of_undeclared readSecond clearSecond missing)
      obtain ⟨lower, _, one, rest, rfl⟩ := List.forall₂_cons_left_iff.mp lowered
      cases rest
      exact ⟨lower, one, reads⟩
  · intro always unfinished
    exact readDeclaration_ne_none_of_unfinished unfinished
      (always "import end" ⟨⟨none, ["end"], [], [], []⟩, []⟩ (by decide +kernel) rfl)
  · intro finished second later _ _
    exact readDeclaration_eq_none_append ⟨'\n', second.toList, rfl, rfl⟩
      unreadable.plain.neverOpens finished unreadable.undeclared

/-- A line that begins with no keyword, between two imports. -/
theorem rule_between_imports :
    PlainLine "rule x".toList ∧
      ∃ lower, Problem.LoweredBy 2
          ⟨"line 1:1 unrecognized statement in package header: 'rule x'", ⟨1, 1⟩⟩ lower ∧
        Reading.ofText ("import a.B" ++ "\n;\n" ++ "rule x" ++ "\n" ++ "import a.C") =
          .ok ⟨⟨none, ["a.B", "a.C"], [], [], []⟩, [lower]⟩ := by
  have plain : PlainLine "rule x".toList :=  by decide +kernel
  have read : Reading.ofText "rule x" = .ok ⟨⟨none, [], [], [], []⟩,
      [⟨"line 1:1 unrecognized statement in package header: 'rule x'", ⟨1, 1⟩⟩]⟩ := by
    decide +kernel
  have readFirst : Reading.ofText "import a.B" = .ok ⟨⟨none, ["a.B"], [], [], []⟩, []⟩ := by
    decide +kernel
  have readSecond : Reading.ofText "import a.C" = .ok ⟨⟨none, ["a.C"], [], [], []⟩, []⟩ := by
    decide +kernel
  obtain ⟨before, part, whole, place, isolated, -⟩ := unreadable_line_costs_itself_iff plain read
  have first : before = [] := by
    by_contra nonempty
    have later := Place.past_lt_append [] nonempty
    rw [List.nil_append, ← place] at later
    exact Place.lt_irrefl _ later
  rw [first, List.nil_append] at whole
  subst whole
  exact ⟨plain, (isolated readFirst rfl readSecond rfl).mpr (by decide +kernel)⟩

/-- A global that breaks off takes the keyword of the next line for its name, so the import there
is lost and what is left of it is complained about. -/
example : Reading.ofText ("" ++ "\n;\n" ++ "global Foo" ++ "\n" ++ "import a.B;") =
    .ok ⟨⟨none, [], [], [⟨"import", "Foo"⟩], []⟩,
      [⟨"line 4:8 unrecognized statement in package header: 'a.B'", ⟨4, 8⟩⟩]⟩ := by
  decide +kernel

end RuleVocabulary.Header
