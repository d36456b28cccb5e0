import Mathlib.Data.List.Pairwise
import RuleVocabulary.Proofs.Header.Declaration
import RuleVocabulary.Proofs.Header.Reading

/-!
# Where the problems of a header are

While a header is read, gaps are skipped in front of its statements and between their tokens. They
are listed here in the order in which they are skipped, each by the text that it begins
(`skippedGaps`); an attempt at a form that fails in the end skips nothing. A place is in a gap if it
is on one of the blanks or in one of the comments there (`InGap`, `inGap_of_filler`).

The gaps of a statement begin behind its front and end before what is left behind it
(`between_of_readStatement`). So no statement begins in a gap (`not_inGap_of_outline`), and each
begins behind the one before it (`pairwise_start`).

Main statement: the problems of a header come in the order of their places, and each of them is at
the front of a statement that is not recognized or of a template that lacks its `end` and is kept
all the same (`problems_are_placed_in_order`).
-/

set_option autoImplicit false

namespace RuleVocabulary.Header

open Text (Place)

variable {text rest gap : List Char}

/-! ## The gaps that are skipped -/

/-- The gap behind a token that has been found. -/
def gapBehind {α : Type} : Option (α × List Char) → List (List Char)
  | some (_, rest) => [rest]
  | none => []

/-- The gap behind a keyword, and those that are skipped further on. -/
def keywordGaps (keyword : Keyword) (further : List Char → List (List Char)) (text : List Char) :
    List (List Char) :=
  match keyword? keyword text with
  | some behind => behind :: further (skipGap behind)
  | none => []

/-- A gap stands behind a name even if no semicolon follows. -/
def nameGaps (text : List Char) : List (List Char) :=
  gapBehind (qualifiedName? text)

def typedNameGaps (text : List Char) : List (List Char) :=
  match typeName? text with
  | some (_, behind) => behind :: gapBehind (word? (skipGap behind))
  | none => []

/-- The gaps in front of the fields of a template, in them and behind them. -/
def fieldGaps (text : List Char) : List (List Char) :=
  match found : readField (skipGap text) with
  | some (_, rest) =>
    have : rest.length < text.length :=
      Nat.lt_of_lt_of_le (length_readField_lt found) (length_skipGap_le text)
    text :: (typedNameGaps (skipGap text) ++ fieldGaps rest)
  | none => [text]
termination_by text.length

def templateGaps (text : List Char) : List (List Char) :=
  match templateName? text with
  | some (_, further) => fieldGaps further
  | none => []

def argumentGaps (text : List Char) : List (List Char) :=
  gapBehind (directiveArgument? text)

/-- The gaps that are skipped while a statement is read. -/
def statementGaps (text : List Char) : Statement → List (List Char)
  | .package _ => keywordGaps .packageWord nameGaps text
  | .typeImport _ => keywordGaps .importWord nameGaps text
  | .functionImport _ => keywordGaps .importWord (keywordGaps .functionWord nameGaps) text
  | .global _ _ => keywordGaps .globalWord typedNameGaps text
  | .template _ _ => keywordGaps .templateWord templateGaps text
  | .directive =>
    keywordGaps .expanderWord argumentGaps text ++ keywordGaps .dialectWord argumentGaps text
  | .empty => []
  | .unrecognized _ => []

/-- All gaps that are skipped while a header is read. -/
def skippedGaps (text : List Char) : List (List Char) :=
  match found : readStatement (skipGap text) with
  | some (statement, rest) =>
    have : rest.length < text.length :=
      Nat.lt_of_lt_of_le (length_readStatement_lt found) (length_skipGap_le text)
    text :: (statementGaps (skipGap text) statement ++ skippedGaps rest)
  | none => [text]
termination_by text.length

/-- A place in the gap at the front of a text, before the end of that gap. -/
def InGap (gap place : List Char) : Prop :=
  place <:+ gap ∧ (skipGap gap).length < place.length

/-- Each gap is given by its text to the end of the header. -/
example : skippedGaps "import /* a */ b; // c".toList =
    ["import /* a */ b; // c", " /* a */ b; // c", "; // c", " // c"].map String.toList := by
  decide +kernel

/-- **Every character of a blank or a comment in a gap is in the gap.** -/
theorem inGap_of_filler (earlier : List Filler) {filler : Filler} {passed inside : List Char}
    (cut : filler.chars = passed ++ inside) (some : inside ≠ []) (rest : List Char) :
    InGap (earlier.flatMap Filler.chars ++ (filler.chars ++ rest)) (inside ++ rest) := by
  have skipped : skipGap (earlier.flatMap Filler.chars ++ (filler.chars ++ rest)) =
      skipGap rest := by
    rw [skipGap_fillers, skipGap_filler]
  refine ⟨?_, ?_⟩
  · rw [cut, List.append_assoc]
    exact (List.suffix_append passed _).trans (List.suffix_append _ _)
  · have shorter := length_skipGap_le rest
    have positive := List.length_pos_iff.mpr some
    rw [skipped, List.length_append]
    omega

/-! ## Gaps inside a statement -/

/-- A gap that begins at `text` or behind it and ends at `rest` or before it. -/
structure Between (text rest gap : List Char) : Prop where
  begins : gap <:+ text
  ends : rest <:+ skipGap gap

namespace Between

theorem mono {outer inner : List Char} (between : Between inner rest gap)
    (begins : inner <:+ outer) : Between outer rest gap where
  begins := between.begins.trans begins
  ends := between.ends

theorem of_suffix {further : List Char} (between : Between text rest gap)
    (ends : further <:+ rest) : Between text further gap where
  begins := between.begins
  ends := ends.trans between.ends

end Between

theorem skipSemicolon_suffix_skipGap (text : List Char) : skipSemicolon text <:+ skipGap text := by
  unfold skipSemicolon
  split
  · rename_i rest semicolon
    rw [semicolon]
    exact List.suffix_cons ';' rest
  · exact List.suffix_rfl

theorem between_gapBehind {α : Type} {token : α} {last : List Char}
    {found : Option (α × List Char)} (same : found = some (token, last)) (behind : last <:+ text) :
    ∀ gap ∈ gapBehind found, Between text (skipSemicolon last) gap := by
  subst same
  intro gap member
  obtain rfl := List.mem_singleton.mp member
  exact ⟨behind, skipSemicolon_suffix_skipGap gap⟩

theorem between_keywordGaps {keyword : Keyword} {further : List Char → List (List Char)}
    {behind : List Char} (found : keyword? keyword text = some behind)
    (ends : rest <:+ skipGap behind)
    (inside : ∀ gap ∈ further (skipGap behind), Between (skipGap behind) rest gap) :
    ∀ gap ∈ keywordGaps keyword further text, Between behind rest gap := by
  intro gap member
  rw [keywordGaps, found] at member
  rcases List.mem_cons.mp member with rfl | later
  · exact ⟨List.suffix_rfl, ends⟩
  · exact (inside gap later).mono (skipGap_suffix behind)

theorem between_typedNameGaps {names : List Char × List Char} {last : List Char}
    (found : typedName? text = some (names, last)) :
    ∀ gap ∈ typedNameGaps text, Between text (skipSemicolon last) gap := by
  obtain ⟨behind, typed, named⟩ := typedName?_eq_some_iff.mp found
  intro gap member
  simp only [typedNameGaps, typed] at member
  rcases List.mem_cons.mp member with rfl | later
  · exact ⟨typeName?_suffix typed, (skipSemicolon_suffix last).trans (word?_suffix named)⟩
  · exact (between_gapBehind named (word?_suffix named) gap later).mono
      ((skipGap_suffix behind).trans (typeName?_suffix typed))

/-- By induction on the fields: those that follow are left behind each of them. -/
theorem between_fieldGaps (text : List Char) :
    ∀ gap ∈ fieldGaps text, Between text (readFields text).2 gap := by
  fun_induction fieldGaps text with
  | case1 text field rest found _ ih =>
      obtain ⟨-, _, _, last, typed, -, rfl⟩ := readField_eq_some_iff.mp found
      have fields : (readFields text).2 = (readFields (skipSemicolon last)).2 := by
        rw [readFields_eq, found]
      have later := readFields_suffix (skipSemicolon last)
      have behind := (skipSemicolon_suffix last).trans (typedName?_suffix typed)
      rw [fields]
      intro gap member
      rcases List.mem_cons.mp member with rfl | member
      · exact ⟨List.suffix_rfl, later.trans behind⟩
      rcases List.mem_append.mp member with inside | further
      · exact ((between_typedNameGaps typed gap inside).of_suffix later).mono (skipGap_suffix text)
      · exact (ih gap further).mono (behind.trans (skipGap_suffix text))
  | case2 text missing =>
      intro gap member
      obtain rfl := List.mem_singleton.mp member
      rw [readFields_eq, missing]
      exact ⟨List.suffix_rfl, List.suffix_rfl⟩

variable {statement : Statement}

theorem between_of_readDeclaration (found : readDeclaration text = some (statement, rest)) :
    ∃ behind, behind <:+ text ∧ behind.length < text.length ∧
      ∀ gap ∈ statementGaps text statement, Between behind rest gap := by
  rcases readDeclaration_cases found with
    package | function | ⟨-, type⟩ | global | template | directive
  · obtain ⟨behind, _, last, keyword, named, rfl, rfl⟩ := readPackage_eq_some_iff.mp package
    have inside := qualifiedName?_suffix named
    exact ⟨behind, keyword?_suffix keyword, length_keyword?_lt keyword,
      between_keywordGaps keyword ((skipSemicolon_suffix last).trans inside)
        (between_gapBehind named inside)⟩
  · obtain ⟨behind, further, _, last, keyword, second, named, rfl, rfl⟩ :=
      readFunctionImport_eq_some_iff.mp function
    have inside := qualifiedName?_suffix named
    have later := (skipSemicolon_suffix last).trans inside
    have begins := keyword?_suffix second
    refine ⟨behind, keyword?_suffix keyword, length_keyword?_lt keyword,
      between_keywordGaps keyword ((later.trans (skipGap_suffix further)).trans begins) ?_⟩
    intro gap member
    exact (between_keywordGaps second later (between_gapBehind named inside) gap member).mono begins
  · obtain ⟨behind, _, last, keyword, named, rfl, rfl⟩ := readTypeImport_eq_some_iff.mp type
    have inside := qualifiedName?_suffix named
    exact ⟨behind, keyword?_suffix keyword, length_keyword?_lt keyword,
      between_keywordGaps keyword ((skipSemicolon_suffix last).trans inside)
        (between_gapBehind named inside)⟩
  · obtain ⟨behind, _, _, last, keyword, typed, rfl, rfl⟩ := readGlobal_eq_some_iff.mp global
    exact ⟨behind, keyword?_suffix keyword, length_keyword?_lt keyword,
      between_keywordGaps keyword ((skipSemicolon_suffix last).trans (typedName?_suffix typed))
        (between_typedNameGaps typed)⟩
  · obtain ⟨behind, _, further, keyword, named, closed⟩ := readTemplate_eq_some_iff.mp template
    have fields := readFields_suffix further
    have inside := templateName?_suffix named
    have ends : rest <:+ (readFields further).2 := by
      rcases closed with ⟨ended, -⟩ | ⟨-, -, -, rfl⟩
      · exact keyword?_suffix ended
      · exact List.suffix_rfl
    have gaps : statementGaps text statement = keywordGaps .templateWord templateGaps text := by
      rcases closed with ⟨-, rfl⟩ | ⟨-, -, rfl, -⟩ <;> rfl
    rw [gaps]
    refine ⟨behind, keyword?_suffix keyword, length_keyword?_lt keyword,
      between_keywordGaps keyword ((ends.trans fields).trans inside) ?_⟩
    intro gap member
    simp only [templateGaps, named] at member
    exact ((between_fieldGaps further gap member).of_suffix ends).mono inside
  · obtain ⟨behind, _, last, keyword, given, rfl, rfl⟩ := readDirective_eq_some_iff.mp directive
    have inside := directiveArgument?_suffix given
    have later := (skipSemicolon_suffix last).trans inside
    have none : ∀ word, keyword? word text = none → keywordGaps word argumentGaps text = [] := by
      intro word missing
      rw [keywordGaps, missing]
    have gaps : ∀ {word}, keyword? word text = some behind →
        ∀ gap ∈ keywordGaps word argumentGaps text, Between behind (skipSemicolon last) gap :=
      fun found => between_keywordGaps found later (between_gapBehind given inside)
    rcases keyword with keyword | keyword
    · have other := none .dialectWord (keyword?_eq_none_of_ne keyword (by decide))
      rw [statementGaps, other, List.append_nil]
      exact ⟨behind, keyword?_suffix keyword, length_keyword?_lt keyword, gaps keyword⟩
    · have other := none .expanderWord (keyword?_eq_none_of_ne keyword (by decide))
      rw [statementGaps, other, List.nil_append]
      exact ⟨behind, keyword?_suffix keyword, length_keyword?_lt keyword, gaps keyword⟩

/-- **The gaps of a statement lie inside it**: they begin behind its front, and when they end, what
is left behind the statement is still to come. -/
theorem between_of_readStatement (found : readStatement text = some (statement, rest)) :
    ∃ behind, behind <:+ text ∧ behind.length < text.length ∧
      ∀ gap ∈ statementGaps text statement, Between behind rest gap := by
  have shorter := length_readStatement_lt found
  have left := readStatement_suffix found
  rcases readStatement_cases found with declared | ⟨-, rfl⟩ | unread
  · exact between_of_readDeclaration declared
  · exact ⟨rest, left, shorter, nofun⟩
  · obtain ⟨-, rfl, -⟩ := readUnrecognized_eq_some_iff.mp unread
    exact ⟨rest, left, shorter, nofun⟩

/-! ## Where statements begin -/

theorem skippedGaps_eq (text : List Char) :
    skippedGaps text =
      match readStatement (skipGap text) with
      | some (statement, rest) =>
        text :: (statementGaps (skipGap text) statement ++ skippedGaps rest)
      | none => [text] := by
  rw [skippedGaps]
  split <;> rename_i found <;> simp [found]

/-- Each gap begins an ending of the header. -/
theorem suffix_of_mem_skippedGaps (text : List Char) : ∀ gap ∈ skippedGaps text, gap <:+ text := by
  fun_induction skippedGaps text with
  | case1 text statement rest found _ ih =>
      obtain ⟨behind, begins, -, inside⟩ := between_of_readStatement found
      intro gap member
      rcases List.mem_cons.mp member with rfl | member
      · exact List.suffix_rfl
      rcases List.mem_append.mp member with here | later
      · exact ((inside gap here).begins.trans begins).trans (skipGap_suffix text)
      · exact ((ih gap later).trans (readStatement_suffix found)).trans (skipGap_suffix text)
  | case2 text => exact fun gap member => List.mem_singleton.mp member ▸ List.suffix_rfl

/-- **No statement begins in a gap.** A gap of an earlier statement ends before it, one of its own
begins behind its front, and so does one of a later statement. -/
theorem not_inGap_of_outline (text : List Char) :
    ∀ located ∈ (outline text).1, ∀ gap ∈ skippedGaps text, ¬ InGap gap located.start := by
  fun_induction outline text with
  | case1 text statement rest found _ more ih =>
      obtain ⟨behind, -, begins, inside⟩ := between_of_readStatement found
      have shorter := length_readStatement_lt found
      have starts : ∀ located ∈ more.1, located.start.length ≤ rest.length :=
        fun located later => (start_suffix_of_mem_outline rest located later).length_le
      intro located member gap among inGap
      obtain ⟨within, passed⟩ := inGap
      have reaches := within.length_le
      rw [skippedGaps_eq, found] at among
      rcases List.mem_cons.mp among with rfl | among
      · -- the gap in front of the statement ends where the statement begins
        rcases List.mem_cons.mp member with rfl | later
        · exact Nat.lt_irrefl _ passed
        · have := starts located later
          omega
      rcases List.mem_append.mp among with here | further
      · have gapBegins := (inside gap here).begins.length_le
        have gapEnds := (inside gap here).ends.length_le
        rcases List.mem_cons.mp member with rfl | later
        · have front : (skipGap text).length ≤ gap.length := reaches
          omega
        · have := starts located later
          omega
      · rcases List.mem_cons.mp member with rfl | later
        · have front : (skipGap text).length ≤ gap.length := reaches
          have := (suffix_of_mem_skippedGaps rest gap further).length_le
          omega
        · exact ih located later gap further ⟨within, passed⟩
  | case2 =>
      intro located member
      cases member

/-- Each statement begins behind the one before it. -/
theorem pairwise_start (text : List Char) :
    (outline text).1.Pairwise fun first second =>
      second.start <:+ first.start ∧ second.start.length < first.start.length := by
  fun_induction outline text with
  | case1 text statement rest found _ more ih =>
      refine List.pairwise_cons.mpr ⟨?_, ih⟩
      intro second later
      have behind := start_suffix_of_mem_outline rest second later
      exact ⟨behind.trans (readStatement_suffix found),
        Nat.lt_of_le_of_lt behind.length_le (length_readStatement_lt found)⟩
  | case2 => exact .nil

/-! ## Problems -/

/-- What a complaint about the front of `start` comes from, in a header that consists of the given
statements. The part that is not recognized begins there. A template that lacks its `end` begins
with its keyword, and the package has it between the templates declared before it and those
declared behind it. -/
inductive Source (statements : List Located) (package : Package) (start : List Char)
    (complaint : String) : Prop where
  | unrecognized {earlier later : List Located} {part : String}
      (stands : statements = earlier ++ ⟨start, .unrecognized part⟩ :: later)
      (begins : part.toList <+: start)
      (told : complaint =
        "unrecognized statement in package header: '" ++ Text.trimmed part ++ "'")
  | unfinished {earlier later : List Located} {declared : Template} {behind : List Char}
      (stands : statements = earlier ++ ⟨start, .template declared false⟩ :: later)
      (begins : keyword? .templateWord start = some behind)
      (told : complaint = "template '" ++ declared.name ++ "' is missing its 'end' keyword")
      (kept : package.templates = earlier.filterMap (·.statement.template?) ++
        declared :: later.filterMap (·.statement.template?))

theorem prefix_of_unrecognized {part : String}
    (found : readStatement text = some (.unrecognized part, rest)) : part.toList <+: text := by
  rcases readStatement_cases found with declared | ⟨-, empty⟩ | unread
  · exact absurd declared (readDeclaration_ne_unrecognized part)
  · cases empty
  · obtain ⟨-, same, -⟩ := readUnrecognized_eq_some_iff.mp unread
    obtain rfl := Statement.unrecognized.inj same
    rw [String.toList_ofList]
    exact ⟨_, unrecognizedPart_append text⟩

theorem keyword_of_template {declared : Template} {closed : Bool}
    (found : readStatement text = some (.template declared closed, rest)) :
    ∃ behind, keyword? .templateWord text = some behind := by
  rcases readStatement_cases found with declares | ⟨-, empty⟩ | unread
  · rcases readDeclaration_cases declares with
      package | function | ⟨-, type⟩ | global | template | directive
    · obtain ⟨_, _, _, -, -, same, -⟩ := readPackage_eq_some_iff.mp package
      cases same
    · obtain ⟨_, _, _, _, -, -, -, same, -⟩ := readFunctionImport_eq_some_iff.mp function
      cases same
    · obtain ⟨_, _, _, -, -, same, -⟩ := readTypeImport_eq_some_iff.mp type
      cases same
    · obtain ⟨_, _, _, _, -, -, same, -⟩ := readGlobal_eq_some_iff.mp global
      cases same
    · obtain ⟨behind, _, _, keyword, -⟩ := readTemplate_eq_some_iff.mp template
      exact ⟨behind, keyword⟩
    · obtain ⟨_, _, _, -, -, same, -⟩ := readDirective_eq_some_iff.mp directive
      cases same
  · cases empty
  · obtain ⟨-, same, -⟩ := readUnrecognized_eq_some_iff.mp unread
    cases same

/-- Each statement that there is something to complain about is the source of its complaint. -/
theorem source_of_complaint {statements : List Located} {start : List Char} {complaint : String}
    (outlined : outline text = (statements, []))
    (member : ⟨start, statement⟩ ∈ statements) (complains : statement.complaint? = some complaint) :
    Source statements (Package.ofStatements (statements.map Located.statement)) start
      complaint := by
  obtain ⟨earlier, later, rfl⟩ := List.append_of_mem member
  obtain ⟨rest, -, found, -⟩ := readStatement_of_outline outlined
  unfold Statement.complaint? at complains
  split at complains
  · obtain rfl := Option.some.inj complains
    exact .unrecognized rfl (prefix_of_unrecognized found) rfl
  · rename_i declared
    obtain rfl := Option.some.inj complains
    obtain ⟨behind, begins⟩ := keyword_of_template found
    refine .unfinished rfl begins rfl ?_
    simp [Package.ofStatements, List.filterMap_map, Function.comp_def, Statement.template?]
  · cases complains

theorem exists_problem (text : List Char) {located : Located}
    (complains : located.statement.complaint? ≠ none) :
    ∃ problem, located.problem? text = some problem ∧
      problem.place = Place.ofRest text located.start := by
  obtain ⟨complaint, complains⟩ := Option.ne_none_iff_exists'.mp complains
  exact ⟨_, by rw [Located.problem?, complains, Option.map_some], rfl⟩

/-- A problem that is told of its place: it is on a character that is no blank and in no gap, its
place is the line and the column of that character, its message begins with this place, and the
rest of the message complains about what the header has there. -/
def Problem.PlacedIn (header : List Char) (package : Package) (problem : Problem) : Prop :=
  ∃ before c behind complaint,
    header = before ++ c :: behind ∧
    problem.place =
      ⟨before.count '\n' + 1, (before.reverse.takeWhile (· ≠ '\n')).length + 1⟩ ∧
    isGapBlank c = false ∧ (∀ gap ∈ skippedGaps header, ¬ InGap gap (c :: behind)) ∧
    problem.message = "line " ++ toString problem.place.line ++ ":" ++
      toString problem.place.column ++ " " ++ complaint ∧
    Source (outline header).1 package (c :: behind) complaint

theorem pairwise_place {statements : List Located} (outlined : outline text = (statements, [])) :
    (statements.filterMap (·.problem? text)).Pairwise fun first second =>
      first.place < second.place := by
  have within := start_suffix_of_mem_outline text
  have ordered := pairwise_start text
  rw [outlined] at within ordered
  rw [List.pairwise_filterMap]
  refine ordered.imp_of_mem ?_
  intro first second member _ later problem reported problem' reported'
  obtain ⟨_, -, rfl⟩ := Option.map_eq_some_iff.mp reported
  obtain ⟨_, -, rfl⟩ := Option.map_eq_some_iff.mp reported'
  exact Place.ofRest_lt_of_suffix (within first member) later.1 later.2

theorem placedIn_of_problem {statements : List Located} {located : Located} {problem : Problem}
    (outlined : outline text = (statements, [])) (member : located ∈ statements)
    (reported : located.problem? text = some problem) :
    problem.PlacedIn text (Package.ofStatements (statements.map Located.statement)) := by
  obtain ⟨start, statement⟩ := located
  obtain ⟨complaint, complains, rfl⟩ := Option.map_eq_some_iff.mp reported
  have all : (outline text).1 = statements := by rw [outlined]
  have apart := not_inGap_of_outline text ⟨start, statement⟩ (all ▸ member)
  have source := source_of_complaint outlined member complains
  obtain ⟨before, whole⟩ := start_suffix_of_mem_outline text ⟨start, statement⟩ (all ▸ member)
  obtain ⟨earlier, later, rfl⟩ := List.append_of_mem member
  obtain ⟨rest, solid, found, -⟩ := readStatement_of_outline outlined
  cases start with
  | nil => cases found
  | cons c behind =>
      refine ⟨before, c, behind, complaint, whole.symm, ?_, isGapBlank_of_solid solid, apart, rfl,
        all ▸ source⟩
      rw [← whole, Place.ofRest_append, Place.past_eq]

/-- **The problems of a header come in the order of their places**, no two of them at one place, and
each is told of the place where the statement begins that it complains about. No statement that
there is something to complain about goes without its problem. -/
theorem problems_are_placed_in_order {header : String} {reading : Reading}
    (read : Reading.ofText header = .ok reading) :
    (reading.problems.map Problem.place).Pairwise (· < ·) ∧
      (∀ problem ∈ reading.problems, problem.PlacedIn header.toList reading.package) ∧
      ∀ located ∈ (outline header.toList).1, located.statement.complaint? ≠ none →
        ∃ problem ∈ reading.problems,
          problem.place = Place.ofRest header.toList located.start := by
  obtain ⟨statements, outlined, rfl⟩ := Reading.ofChars_eq_ok_iff.mp read
  refine ⟨?_, ?_, ?_⟩
  · rw [List.pairwise_map]
    exact pairwise_place outlined
  · intro problem member
    obtain ⟨located, among, reported⟩ := List.mem_filterMap.mp member
    exact placedIn_of_problem outlined among reported
  · intro located member complains
    rw [outlined] at member
    obtain ⟨problem, reported, place⟩ := exists_problem header.toList complains
    exact ⟨problem, List.mem_filterMap.mpr ⟨located, member, reported⟩, place⟩

/-- A header with a rule in front of a comment over two lines, a template without its `end` behind
it, and a query at the end. -/
def troubled : String :=
  "rule a /* one\ntwo */ template T # of it\r\n String s\nimport a.B;\n  query b"

/-- What is read of it. -/
def troubledReading : Reading where
  package := ⟨none, ["a.B"], [], [], [⟨"T", [⟨"s", "String"⟩]⟩]⟩
  problems :=
    [⟨"line 1:1 unrecognized statement in package header: 'rule a'", ⟨1, 1⟩⟩,
      ⟨"line 2:8 template 'T' is missing its 'end' keyword", ⟨2, 8⟩⟩,
      ⟨"line 5:3 unrecognized statement in package header: 'query b'", ⟨5, 3⟩⟩]

theorem troubles_are_placed_in_order :
    Reading.ofText troubled = .ok troubledReading ∧
      (troubledReading.problems.map Problem.place).Pairwise (· < ·) ∧
      (∀ problem ∈ troubledReading.problems,
        problem.PlacedIn troubled.toList troubledReading.package) ∧
      ∀ located ∈ (outline troubled.toList).1, located.statement.complaint? ≠ none →
        ∃ problem ∈ troubledReading.problems,
          problem.place = Place.ofRest troubled.toList located.start := by
  have read : Reading.ofText troubled = .ok troubledReading := by decide +kernel
  exact ⟨read, problems_are_placed_in_order read⟩

end RuleVocabulary.Header
