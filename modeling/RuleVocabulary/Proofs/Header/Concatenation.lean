import RuleVocabulary.Proofs.Header.Reading
import RuleVocabulary.Proofs.Header.Tail

/-!
# Two headers in one text

Headers are put together with a semicolon on a line of its own between them. No statement of the
first header reaches past that line: a token ends with its line, and the semicolon begins no word,
so an import of something called `function` finds no other name. The semicolon itself is a
statement that declares nothing, unless it closes the last statement of the first header
(`outline_joined`).

Main statement: if there is nothing to complain about in the first header, the two together declare
what the first declares followed by what the second declares, with the problems of the second on
lower lines (`reading_of_concatenation`). A first header with problems is excluded for a reason: a
template without its `end` would take the fields of the second header for its own.
-/

set_option autoImplicit false

namespace RuleVocabulary.Header

variable {text tail : List Char}

/-- Where everything is read and no statement is found, there is only a gap. -/
theorem skipGap_of_outline_nil (outlined : outline text = ([], [])) : skipGap text = [] := by
  rw [outline_eq] at outlined
  split at outlined
  · cases (Prod.mk.inj outlined).1
  · exact (Prod.mk.inj outlined).2

/-- **A header is finished before a tail on a new line.** What follows its statements is the
outline of the tail, or of what is behind a semicolon that the tail begins with. -/
theorem outline_of_finished (breaks : BreaksLine tail) (inert : word? (skipGap tail) = none)
    {statements : List Located} (outlined : outline text = (statements, []))
    (quiet : ∀ located ∈ statements, located.statement.complaint? = none) :
    ∃ behind, (behind = tail ∨ behind = skipSemicolon tail) ∧
      outline (text ++ tail) =
        (statements.map (Located.before tail) ++ (outline behind).1, (outline behind).2) := by
  have outlined' : outline text = (statements ++ [], []) := by rw [List.append_nil, outlined]
  obtain ⟨left, further, continues, finished, longer⟩ :=
    outline_of_continues breaks quiet (fun _ => inert) (.append breaks text) outlined'
  have gap := skipGap_of_outline_nil finished
  rcases continues.ended gap with same | same
  · exact ⟨tail, .inl rfl, by rw [longer, outline_congr same]⟩
  · exact ⟨Header.skipSemicolon tail, .inr rfl, by rw [longer, outline_congr same]⟩

/-! ## A semicolon on a line of its own -/

theorem skipGap_newline (text : List Char) : skipGap ('\n' :: text) = skipGap text :=
  skipGap_blank rfl text

theorem skipGap_semicolonLine (text : List Char) :
    skipGap ('\n' :: ';' :: '\n' :: text) = ';' :: '\n' :: text := by
  rw [skipGap_newline, skipGap_eq_self rfl (by decide) (by decide)]

/-- A semicolon on a line of its own is a statement that declares nothing. -/
theorem outline_semicolonLine (text : List Char) :
    outline ('\n' :: ';' :: '\n' :: text) =
      (⟨';' :: '\n' :: text, .empty⟩ :: (outline text).1, (outline text).2) := by
  have empty : readStatement (skipGap ('\n' :: ';' :: '\n' :: text)) =
      some (.empty, '\n' :: text) := by
    rw [skipGap_semicolonLine, readStatement_semicolon]
  rw [outline_of_statement empty, skipGap_semicolonLine, outline_congr (skipGap_newline text)]

/-- **The outlines of two headers, one after the other.** Between them stands the semicolon, unless
it closes the last statement of the first one. -/
theorem outline_joined {statements : List Located} (outlined : outline text = (statements, []))
    (quiet : ∀ located ∈ statements, located.statement.complaint? = none) (second : List Char) :
    ∃ between, (between = [] ∨ between = [⟨';' :: '\n' :: second, .empty⟩]) ∧
      outline (text ++ '\n' :: ';' :: '\n' :: second) =
        (statements.map (Located.before ('\n' :: ';' :: '\n' :: second)) ++
          (between ++ (outline second).1), (outline second).2) := by
  have breaks : BreaksLine ('\n' :: ';' :: '\n' :: second) := ⟨'\n', _, rfl, rfl⟩
  have inert : word? (skipGap ('\n' :: ';' :: '\n' :: second)) = none := by
    rw [skipGap_semicolonLine]
    rfl
  obtain ⟨behind, rfl | rfl, joined⟩ := outline_of_finished breaks inert outlined quiet
  · refine ⟨[⟨';' :: '\n' :: second, .empty⟩], .inr rfl, ?_⟩
    rw [joined, outline_semicolonLine]
    rfl
  · refine ⟨[], .inl rfl, ?_⟩
    rw [joined, skipSemicolon_of_semicolon (skipGap_semicolonLine second),
      outline_congr (skipGap_newline second)]
    rfl

@[simp]
theorem map_statement_before (statements : List Located) :
    (statements.map (Located.before tail)).map Located.statement =
      statements.map Located.statement := by
  rw [List.map_map]
  rfl

theorem problems_before_eq_nil {statements : List Located}
    (quiet : ∀ located ∈ statements, located.statement.complaint? = none) :
    (statements.map (Located.before tail)).filterMap (·.problem? text) = [] := by
  rw [problems_eq_nil_iff]
  intro longer member
  obtain ⟨located, within, rfl⟩ := List.mem_map.mp member
  exact quiet located within

section Joined

variable {second : List Char} {between : List Located}

theorem package_joined (empty : between = [] ∨ between = [⟨';' :: '\n' :: second, .empty⟩])
    (statements further : List Located) :
    Package.ofStatements ((statements.map (Located.before tail) ++ (between ++ further)).map
        Located.statement) =
      (Package.ofStatements (statements.map Located.statement)).followedBy
        (Package.ofStatements (further.map Located.statement)) := by
  rw [List.map_append, List.map_append, map_statement_before, Package.ofStatements_append]
  rcases empty with rfl | rfl
  · rfl
  · rw [List.map_singleton, List.singleton_append, Package.ofStatements_empty_cons]

theorem problems_joined (empty : between = [] ∨ between = [⟨';' :: '\n' :: second, .empty⟩])
    {statements : List Located}
    (quiet : ∀ located ∈ statements, located.statement.complaint? = none)
    (further : List Located) :
    (statements.map (Located.before tail) ++ (between ++ further)).filterMap (·.problem? text) =
      further.filterMap (·.problem? text) := by
  rw [List.filterMap_append, problems_before_eq_nil quiet, List.nil_append, List.filterMap_append]
  rcases empty with rfl | rfl <;> rfl

end Joined

/-! ## Readings -/

theorem fault_joined {reading : Reading} (read : Reading.ofChars text = .ok reading)
    (clear : reading.problems = []) (second : List Char) :
    (∃ fault, Reading.ofChars (text ++ '\n' :: ';' :: '\n' :: second) = .error fault) ↔
      ∃ fault, Reading.ofChars second = .error fault := by
  obtain ⟨statements, outlined, rfl⟩ := Reading.ofChars_eq_ok_iff.mp read
  obtain ⟨between, -, joined⟩ := outline_joined outlined (problems_eq_nil_iff.mp clear) second
  rw [Reading.exists_error_iff, Reading.exists_error_iff, joined]

theorem reading_joined {reading later : Reading} (read : Reading.ofChars text = .ok reading)
    (clear : reading.problems = []) {second : List Char}
    (further : Reading.ofChars second = .ok later) :
    ∃ problems, Reading.ofChars (text ++ '\n' :: ';' :: '\n' :: second) =
        .ok ⟨reading.package.followedBy later.package, problems⟩ ∧
      List.Forall₂ (Problem.LoweredBy (text.count '\n' + 2)) later.problems problems := by
  obtain ⟨statements, outlined, rfl⟩ := Reading.ofChars_eq_ok_iff.mp read
  obtain ⟨more, outlined', rfl⟩ := Reading.ofChars_eq_ok_iff.mp further
  have quiet := problems_eq_nil_iff.mp clear
  obtain ⟨between, empty, joined⟩ := outline_joined outlined quiet second
  rw [outlined'] at joined
  refine ⟨more.filterMap (·.problem? (text ++ '\n' :: ';' :: '\n' :: second)),
    Reading.ofChars_eq_ok_iff.mpr ⟨_, joined, ?_⟩, ?_⟩
  · rw [package_joined empty, problems_joined empty quiet]
  · have within : ∀ located ∈ more, located.start <:+ second := by
      have starts := start_suffix_of_mem_outline second
      rwa [outlined'] at starts
    have below := problems_below (text ++ ['\n', ';']) within
    simpa [List.count_append] using below

/-- The characters of two headers that are put together. -/
theorem toList_joined (first second : String) :
    (first ++ "\n;\n" ++ second).toList = first.toList ++ '\n' :: ';' :: '\n' :: second.toList := by
  simp

/-- **Headers are read one after the other.** -/
theorem reading_of_concatenation {first : String} {reading : Reading}
    (read : Reading.ofText first = .ok reading) (clear : reading.problems = [])
    (second : String) :
    ((∃ fault, Reading.ofText (first ++ "\n;\n" ++ second) = .error fault) ↔
        ∃ fault, Reading.ofText second = .error fault) ∧
      ∀ later, Reading.ofText second = .ok later →
        ∃ problems, Reading.ofText (first ++ "\n;\n" ++ second) =
            .ok ⟨reading.package.followedBy later.package, problems⟩ ∧
          List.Forall₂ (Problem.LoweredBy (first.toList.count '\n' + 2)) later.problems
            problems := by
  simp only [Reading.ofText, toList_joined]
  constructor
  · exact fault_joined read clear second.toList
  · intro later further
    exact reading_joined read clear further

/-- A first header that ends in an import of something called `function`, and a second one with a
statement that cannot be recognized: the import stays what it is, and the complaint moves from the
second line to the fourth. -/
theorem reading_of_two_headers :
    ((∃ fault, Reading.ofText ("import function" ++ "\n;\n" ++ "package a\nrule x") =
          .error fault) ↔
        ∃ fault, Reading.ofText "package a\nrule x" = .error fault) ∧
      ∃ problems, Reading.ofText ("import function" ++ "\n;\n" ++ "package a\nrule x") =
          .ok ⟨⟨some "a", ["function"], [], [], []⟩, problems⟩ ∧
        List.Forall₂ (Problem.LoweredBy 2)
          [⟨"line 2:1 unrecognized statement in package header: 'rule x'", ⟨2, 1⟩⟩] problems := by
  have read : Reading.ofText "import function" = .ok ⟨⟨none, ["function"], [], [], []⟩, []⟩ := by
    decide +kernel
  have joined := reading_of_concatenation read rfl "package a\nrule x"
  exact ⟨joined.1, joined.2 ⟨⟨some "a", [], [], [], []⟩,
    [⟨"line 2:1 unrecognized statement in package header: 'rule x'", ⟨2, 1⟩⟩]⟩ (by decide +kernel)⟩

end RuleVocabulary.Header
