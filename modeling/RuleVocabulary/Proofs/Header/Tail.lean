import RuleVocabulary.Header.Package
import RuleVocabulary.Proofs.Header.Statement

/-!
# A tail on a new line

A header grows by a tail that begins on a new line. What was read of it as a declaration, or as a
semicolon, is read in the same way before the tail: a token ends with its line at the latest, and a
template that has its `end` does not look for another one. The one thing that changes is what is
left behind the statement (`Continues`): the tail stands behind it, and where nothing but a gap was
left, a semicolon that the tail begins with may count as the statement's own.

Two statements see more of the tail and have to be left out. One that cannot be recognized may be
completed by the tail, and a template without its `end` goes on in it. Besides, an import of
something called `function` at the very end of the header becomes an import of a function when the
tail begins with a word.

Main statement: the outline of the longer header begins with the statements of the header
(`outline_of_continues`).
-/

set_option autoImplicit false

namespace RuleVocabulary.Header

variable {text rest tail : List Char} {statement : Statement}

/-! ## Tokens behind a gap -/

/-- A reader of tokens finds nothing where there is nothing to read, and a tail on a new line
changes nothing but what it leaves. -/
structure ReadsToken {α : Type} (read : List Char → Option (α × List Char)) : Prop where
  readable : ∀ {text found}, read text = some found → Readable text
  append : ∀ {tail}, BreaksLine tail → ∀ text,
    read (text ++ tail) = (read text).map (withTail tail)

namespace ReadsToken

variable {α : Type} {read other : List Char → Option (α × List Char)}

/-- What can be read behind a gap is read there before a tail as well, and nothing else is. -/
theorem behind_gap (reads : ReadsToken read) (breaks : BreaksLine tail)
    (readable : Readable (skipGap text)) :
    read (skipGap (text ++ tail)) = (read (skipGap text)).map (withTail tail) := by
  rw [(skipGap_append breaks text).2 readable, reads.append breaks]

theorem found_behind_gap (reads : ReadsToken read) (breaks : BreaksLine tail) {token : α}
    (found : read (skipGap text) = some (token, rest)) :
    read (skipGap (text ++ tail)) = some (token, rest ++ tail) := by
  rw [reads.behind_gap breaks (reads.readable found), found]
  rfl

theorem or (first : ReadsToken read) (second : ReadsToken other) :
    ReadsToken fun text => (read text).or (other text) where
  readable := by
    intro text found either
    rcases Option.or_eq_some_iff.mp either with one | ⟨-, one⟩
    · exact first.readable one
    · exact second.readable one
  append := by
    intro tail breaks text
    rw [first.append breaks, second.append breaks]
    cases read text <;> rfl

end ReadsToken

theorem readsToken_word : ReadsToken word? where
  readable := by
    intro text found word
    unfold word? at word
    split at word
    · rename_i c rest
      split at word
      · rename_i starts
        refine readable_cons ?_ rest
        rintro rfl
        cases starts
      · cases word
    · cases word
  append breaks := word?_append breaks.startsBlank

theorem readsToken_qualifiedName : ReadsToken qualifiedName? where
  readable := by
    intro text found name
    obtain ⟨first, word⟩ := Option.ne_none_iff_exists'.mp fun missing =>
      Option.some_ne_none found (name.symm.trans (qualifiedName?_eq_none_iff.mpr missing))
    exact readsToken_word.readable word
  append breaks := qualifiedName?_append breaks.startsBlank

theorem readsToken_typeName : ReadsToken typeName? where
  readable := by
    intro text found name
    obtain ⟨first, word⟩ := Option.ne_none_iff_exists'.mp fun missing =>
      Option.some_ne_none found (name.symm.trans (typeName?_eq_none_iff.mpr missing))
    exact readsToken_word.readable word
  append breaks := typeName?_append breaks.startsBlank

theorem readsToken_quoted : ReadsToken quoted? where
  readable := by
    intro text found inside
    unfold quoted? at inside
    split at inside
    · exact readable_cons (by decide) _
    · cases inside
  append := quoted?_append

theorem readsToken_templateName : ReadsToken templateName? := by
  rw [funext templateName?_eq]
  exact readsToken_quoted.or readsToken_word

theorem readsToken_directiveArgument : ReadsToken directiveArgument? :=
  readsToken_quoted.or readsToken_qualifiedName

theorem readable_of_keyword? {keyword : Keyword} (found : keyword? keyword text = some rest) :
    Readable text := by
  rcases text with _ | ⟨c, further⟩
  · cases keyword <;> cases found
  refine readable_cons ?_ further
  rintro rfl
  rw [keyword?_eq_none_of_stop (by rintro c first; cases first; rfl)] at found
  cases found

theorem skipGap_of_keyword? {keyword : Keyword} (found : keyword? keyword text = some rest) :
    skipGap text = text := by
  rcases text with _ | ⟨c, further⟩
  · rfl
  by_cases part : isWordPart c = true
  · refine skipGap_eq_self ?_ ?_ ?_ further
    · by_contra blank
      rw [isWordPart_of_isGapBlank (by simpa using blank)] at part
      cases part
    · rintro rfl
      cases part
    · rintro rfl
      cases part
  · rw [keyword?_eq_none_of_stop (by rintro d first; cases first; simpa using part)] at found
    cases found

theorem keyword?_found_append (breaks : BreaksLine tail) {keyword : Keyword}
    (found : keyword? keyword text = some rest) :
    keyword? keyword (text ++ tail) = some (rest ++ tail) := by
  rw [keyword?_append breaks.startsBlank, found]
  rfl

/-! ## What is left behind a statement -/

/-- What is left in a text and in the text with a tail: the tail stands behind it, and where a gap
was left, the tail goes on, perhaps behind a semicolon. -/
structure Continues (tail left longer : List Char) : Prop where
  kept : Readable (skipGap left) → skipGap longer = skipGap left ++ tail
  ended : skipGap left = [] →
    skipGap longer = skipGap tail ∨ skipGap longer = skipGap (skipSemicolon tail)

theorem Continues.append (breaks : BreaksLine tail) (left : List Char) :
    Continues tail left (left ++ tail) where
  kept := (skipGap_append breaks left).2
  ended gap := .inl ((skipGap_append breaks left).1 gap)

/-- An optional semicolon is read before the tail or, where the text has ended, in the tail. -/
theorem Continues.skipSemicolon (breaks : BreaksLine tail) (left : List Char) :
    Continues tail (skipSemicolon left) (skipSemicolon (left ++ tail)) := by
  obtain ⟨ended, kept⟩ := skipGap_append breaks left
  by_cases semicolon : ∃ behind, skipGap left = ';' :: behind
  · obtain ⟨behind, stands⟩ := semicolon
    rw [stands] at kept
    rw [skipSemicolon_of_semicolon stands,
      skipSemicolon_of_semicolon (kept (readable_cons (by decide) behind))]
    exact .append breaks behind
  · have other := not_exists.mp semicolon
    rw [skipSemicolon_of_ne other]
    refine ⟨?_, ?_⟩
    · rw [skipGap_skipGap]
      intro readable
      have stands := kept readable
      have otherwise : ∀ behind, skipGap (left ++ tail) ≠ ';' :: behind := by
        rw [stands]
        intro behind same
        rcases cut : skipGap left with _ | ⟨c, further⟩
        · exact readable.nonempty cut
        · rw [cut, List.cons_append] at same
          rw [(List.cons.inj same).1] at cut
          exact other further cut
      rw [skipSemicolon_of_ne otherwise, skipGap_skipGap, stands]
    · rw [skipGap_skipGap]
      intro gap
      exact .inr (congrArg skipGap (skipSemicolon_congr (ended gap)))

/-! ## Declarations before a tail -/

theorem readPackage_append (breaks : BreaksLine tail)
    (found : readPackage text = some (statement, rest)) :
    ∃ further, readPackage (text ++ tail) = some (statement, further) ∧
      Continues tail rest further := by
  obtain ⟨behind, name, last, keyword, named, rfl, rfl⟩ := readPackage_eq_some_iff.mp found
  refine ⟨_, readPackage_eq_some_iff.mpr ⟨behind ++ tail, name, last ++ tail, ?_, ?_, rfl, rfl⟩,
    .skipSemicolon breaks last⟩
  · exact keyword?_found_append breaks keyword
  · exact readsToken_qualifiedName.found_behind_gap breaks named

theorem keyword?_behind_gap (breaks : BreaksLine tail) {keyword : Keyword}
    (found : keyword? keyword (skipGap text) = some rest) :
    keyword? keyword (skipGap (text ++ tail)) = some (rest ++ tail) := by
  rw [(skipGap_append breaks text).2 (readable_of_keyword? found)]
  exact keyword?_found_append breaks found

theorem readFunctionImport_append (breaks : BreaksLine tail)
    (found : readFunctionImport text = some (statement, rest)) :
    ∃ further, readFunctionImport (text ++ tail) = some (statement, further) ∧
      Continues tail rest further := by
  obtain ⟨behind, further, target, last, keyword, function, named, rfl, rfl⟩ :=
    readFunctionImport_eq_some_iff.mp found
  refine ⟨_, readFunctionImport_eq_some_iff.mpr
    ⟨behind ++ tail, further ++ tail, target, last ++ tail, ?_, ?_, ?_, rfl, rfl⟩,
    .skipSemicolon breaks last⟩
  · exact keyword?_found_append breaks keyword
  · exact keyword?_behind_gap breaks function
  · exact readsToken_qualifiedName.found_behind_gap breaks named

theorem readTypeImport_append (breaks : BreaksLine tail)
    (found : readTypeImport text = some (statement, rest)) :
    ∃ further, readTypeImport (text ++ tail) = some (statement, further) ∧
      Continues tail rest further := by
  obtain ⟨behind, target, last, keyword, named, rfl, rfl⟩ := readTypeImport_eq_some_iff.mp found
  refine ⟨_, readTypeImport_eq_some_iff.mpr
    ⟨behind ++ tail, target, last ++ tail, ?_, ?_, rfl, rfl⟩, .skipSemicolon breaks last⟩
  · exact keyword?_found_append breaks keyword
  · exact readsToken_qualifiedName.found_behind_gap breaks named

theorem typedName?_append (breaks : BreaksLine tail) {names : List Char × List Char}
    (found : typedName? text = some (names, rest)) :
    typedName? (text ++ tail) = some (names, rest ++ tail) := by
  obtain ⟨behind, type, name⟩ := typedName?_eq_some_iff.mp found
  refine typedName?_eq_some_iff.mpr ⟨behind ++ tail, ?_, ?_⟩
  · rw [readsToken_typeName.append breaks, type]
    rfl
  · exact readsToken_word.found_behind_gap breaks name

theorem readable_of_typedName? {names : List Char × List Char}
    (found : typedName? text = some (names, rest)) : Readable text := by
  obtain ⟨behind, type, -⟩ := typedName?_eq_some_iff.mp found
  exact readsToken_typeName.readable type

theorem readGlobal_append (breaks : BreaksLine tail)
    (found : readGlobal text = some (statement, rest)) :
    ∃ further, readGlobal (text ++ tail) = some (statement, further) ∧
      Continues tail rest further := by
  obtain ⟨behind, type, name, last, keyword, typed, rfl, rfl⟩ := readGlobal_eq_some_iff.mp found
  refine ⟨_, readGlobal_eq_some_iff.mpr
    ⟨behind ++ tail, type, name, last ++ tail, ?_, ?_, rfl, rfl⟩, .skipSemicolon breaks last⟩
  · exact keyword?_found_append breaks keyword
  · rw [(skipGap_append breaks behind).2 (readable_of_typedName? typed)]
    exact typedName?_append breaks typed

theorem readField_append (breaks : BreaksLine tail) {field : TemplateField}
    (found : readField text = some (field, rest)) :
    ∃ further, readField (text ++ tail) = some (field, further) ∧ Continues tail rest further := by
  obtain ⟨free, type, name, last, typed, rfl, rfl⟩ := readField_eq_some_iff.mp found
  refine ⟨_, readField_eq_some_iff.mpr ⟨?_, type, name, last ++ tail, ?_, rfl, rfl⟩,
    .skipSemicolon breaks last⟩
  · rw [startsReserved_append breaks.startsBlank, free]
  · exact typedName?_append breaks typed

theorem readable_of_readField {field : TemplateField}
    (found : readField text = some (field, rest)) : Readable text := by
  obtain ⟨-, _, _, _, typed, -⟩ := readField_eq_some_iff.mp found
  exact readable_of_typedName? typed

theorem readField_of_reserved (reserved : startsReserved text = true) : readField text = none := by
  simp [readField, reserved]

theorem readFields_of_none (missing : readField (skipGap text) = none) :
    readFields text = ([], skipGap text) := by
  rw [readFields_eq, missing]

theorem readFields_congr {other : List Char} (same : skipGap text = skipGap other) :
    readFields text = readFields other := by
  rw [readFields_eq text, readFields_eq other, same]

/-- Fields are read alike before a tail, up to where they ended. There it depends on the tail
whether more of them follow. -/
theorem readFields_append (breaks : BreaksLine tail) (text : List Char) :
    ∀ {longer : List Char}, Continues tail text longer → Readable (readFields text).2 →
      readFields longer = ((readFields text).1 ++ (readFields ((readFields text).2 ++ tail)).1,
        (readFields ((readFields text).2 ++ tail)).2) := by
  fun_induction readFields text with
  | case1 text field behind found _ more =>
      rename_i ih
      intro longer continues readable
      obtain ⟨further, again, onward⟩ := readField_append breaks found
      have stands := continues.kept (readable_of_readField found)
      rw [readFields_eq longer, stands, again]
      simp only [ih onward readable]
      rfl
  | case2 text missing =>
      intro longer continues readable
      have stands := continues.kept readable
      have solid : skipGap longer = skipGap (skipGap text ++ tail) := by
        rw [← stands, skipGap_skipGap]
      rw [readFields_congr solid]
      rfl

theorem readTemplate_append (breaks : BreaksLine tail) {declared : Template}
    (found : readTemplate text = some (.template declared true, rest)) :
    readTemplate (text ++ tail) = some (.template declared true, rest ++ tail) := by
  obtain ⟨behind, name, further, keyword, named, ⟨ended, same⟩ | ⟨-, -, unended, -⟩⟩ :=
    readTemplate_eq_some_iff.mp found
  · have fields := readFields_append breaks further (.append breaks further)
      (readable_of_keyword? ended)
    have closing := keyword?_found_append breaks ended
    have solid : skipGap ((readFields further).2 ++ tail) = (readFields further).2 ++ tail :=
      skipGap_of_keyword? closing
    have nothing : readField (skipGap ((readFields further).2 ++ tail)) = none := by
      rw [solid]
      exact readField_of_reserved (startsReserved_of_keyword? (by decide) closing)
    rw [readFields_of_none nothing, List.append_nil, solid] at fields
    refine readTemplate_eq_some_iff.mpr ⟨behind ++ tail, name, further ++ tail, ?_, ?_, ?_⟩
    · exact keyword?_found_append breaks keyword
    · exact readsToken_templateName.found_behind_gap breaks named
    · rw [fields]
      exact .inl ⟨closing, same⟩
  · cases unended

theorem readDirective_append (breaks : BreaksLine tail)
    (found : readDirective text = some (statement, rest)) :
    ∃ further, readDirective (text ++ tail) = some (statement, further) ∧
      Continues tail rest further := by
  obtain ⟨behind, argument, last, keyword, given, rfl, rfl⟩ := readDirective_eq_some_iff.mp found
  refine ⟨_, readDirective_eq_some_iff.mpr
    ⟨behind ++ tail, argument, last ++ tail, ?_, ?_, rfl, rfl⟩, .skipSemicolon breaks last⟩
  · exact keyword.imp (keyword?_found_append breaks) (keyword?_found_append breaks)
  · exact readsToken_directiveArgument.found_behind_gap breaks given

/-! ## The choice of a declaration before a tail -/

theorem word?_of_keyword? {keyword : Keyword} (found : keyword? keyword text = some rest) :
    word? text = some (keyword.spelling, rest) := by
  obtain ⟨front, rfl⟩ := keyword?_eq_some_iff.mp found
  have cut := List.takeWhile_append_dropWhile (p := isWordPart) (l := text)
  rcases text with _ | ⟨c, further⟩
  · cases keyword <;> cases front
  have starts : isWordStart c = true ∧ isWordPart c = true := by
    rw [List.takeWhile_cons] at front
    by_cases part : isWordPart c = true
    · rw [if_pos part] at front
      refine ⟨?_, part⟩
      cases keyword <;> (rw [(List.cons.inj front).1]; rfl)
    · rw [if_neg part] at front
      cases keyword <;> cases front
  rw [word?, if_pos starts.1, ← front, List.takeWhile_cons, if_pos starts.2, List.dropWhile_cons,
    if_pos starts.2]

/-- A word without a dot behind it is a dotted name of its own. -/
theorem qualifiedName?_of_word {word : List Char} (found : word? text = some (word, rest))
    (noDot : ∀ c ∈ rest.head?, c ≠ '.') : qualifiedName? text = some (word, rest) := by
  have plain : wildcard rest = ([], rest) := by
    rw [wildcard]
    rintro further rfl
    exact noDot '.' rfl rfl
  rw [qualifiedName?_eq, found]
  simp [dottedWords_of_ne noDot, plain]

/-- Where an import is none of a function, no name follows the word `function`. -/
theorem qualifiedName?_eq_none_of_typeImport {behind further : List Char}
    (noFunction : readFunctionImport text = none) (keyword : keyword? .importWord text = some behind)
    (function : keyword? .functionWord (skipGap behind) = some further) :
    qualifiedName? (skipGap further) = none := by
  by_contra named
  obtain ⟨⟨target, last⟩, named⟩ := Option.ne_none_iff_exists'.mp named
  rw [readFunctionImport_eq_some_iff.mpr
    ⟨behind, further, target, last, keyword, function, named, rfl, rfl⟩] at noFunction
  cases noFunction

/-- Where there is nothing to read behind the word `function`, it is a name of its own. -/
theorem rest_of_function {further name : List Char}
    (function : keyword? .functionWord text = some further)
    (named : qualifiedName? text = some (name, rest)) (nothing : ¬ Readable (skipGap further)) :
    rest = further := by
  have noDot : ∀ c ∈ further.head?, c ≠ '.' := by
    rintro c first rfl
    obtain ⟨inside, rfl⟩ := List.head?_eq_some_iff.mp first
    rw [skipGap_eq_self rfl (by decide) (by decide)] at nothing
    exact nothing (readable_cons (by decide) inside)
  rw [qualifiedName?_of_word (word?_of_keyword? function) noDot] at named
  exact (Prod.mk.inj (Option.some.inj named)).2.symm

/-- An import of a type stays one before a tail, also of a type called `function`: what is left
behind it tells that no other name follows. -/
theorem readFunctionImport_eq_none_append (breaks : BreaksLine tail)
    (noFunction : readFunctionImport text = none)
    (found : readTypeImport text = some (statement, rest))
    (closed : ¬ OpensComment (skipGap rest))
    (inert : skipGap rest = [] → word? (skipGap tail) = none) :
    readFunctionImport (text ++ tail) = none := by
  obtain ⟨behind, target, last, keyword, named, rfl, rfl⟩ := readTypeImport_eq_some_iff.mp found
  by_contra other
  obtain ⟨⟨_, _⟩, other⟩ := Option.ne_none_iff_exists'.mp other
  obtain ⟨_, _, _, _, keyword', function, name, -, -⟩ := readFunctionImport_eq_some_iff.mp other
  rw [keyword?_found_append breaks keyword] at keyword'
  cases keyword'
  rw [(skipGap_append breaks behind).2 (readsToken_qualifiedName.readable named),
    keyword?_append breaks.startsBlank, Option.map_eq_some_iff] at function
  obtain ⟨further, function, rfl⟩ := function
  have noName := qualifiedName?_eq_none_of_typeImport noFunction keyword function
  by_cases readable : Readable (skipGap further)
  · rw [readsToken_qualifiedName.behind_gap breaks readable, noName] at name
    cases name
  obtain rfl := rest_of_function function named readable
  -- the word `function` is the target, so what is left behind it decides
  by_cases gap : skipGap last = []
  · have left : skipSemicolon last = [] := by
      rw [skipSemicolon_of_ne (by simp [gap]), gap]
    rw [left] at inert
    rw [(skipGap_append breaks last).1 gap, qualifiedName?_eq_none_iff.mpr (inert rfl)] at name
    cases name
  · have opens : OpensComment (skipGap last) := by
      by_contra sealed
      exact readable ⟨gap, sealed⟩
    have noSemicolon : ∀ behind, skipGap last ≠ ';' :: behind := by
      intro behind semicolon
      obtain ⟨inside, same, -⟩ := opens
      rw [semicolon] at same
      cases same
    rw [skipSemicolon_of_ne noSemicolon, skipGap_skipGap] at closed
    exact closed opens

/-- **A declaration is read alike before a tail.** -/
theorem readDeclaration_append (breaks : BreaksLine tail)
    (found : readDeclaration text = some (statement, rest)) (clear : statement.complaint? = none)
    (closed : ¬ OpensComment (skipGap rest))
    (inert : skipGap rest = [] → word? (skipGap tail) = none) :
    ∃ further, readDeclaration (text ++ tail) = some (statement, further) ∧
      Continues tail rest further := by
  rcases readDeclaration_cases found with
    package | function | ⟨noFunction, type⟩ | global | template | directive
  · obtain ⟨behind, _, _, keyword, -⟩ := readPackage_eq_some_iff.mp package
    rw [readDeclaration_of_package (keyword?_found_append breaks keyword)]
    exact readPackage_append breaks package
  · obtain ⟨behind, _, _, _, keyword, -⟩ := readFunctionImport_eq_some_iff.mp function
    rw [readDeclaration_of_import (keyword?_found_append breaks keyword)]
    obtain ⟨further, again, onward⟩ := readFunctionImport_append breaks function
    exact ⟨further, by rw [again]; rfl, onward⟩
  · obtain ⟨behind, _, _, keyword, -⟩ := readTypeImport_eq_some_iff.mp type
    rw [readDeclaration_of_import (keyword?_found_append breaks keyword),
      readFunctionImport_eq_none_append breaks noFunction type closed inert]
    exact readTypeImport_append breaks type
  · obtain ⟨behind, _, _, _, keyword, -⟩ := readGlobal_eq_some_iff.mp global
    rw [readDeclaration_of_global (keyword?_found_append breaks keyword)]
    exact readGlobal_append breaks global
  · obtain ⟨behind, _, _, keyword, -, ⟨-, rfl⟩ | ⟨-, -, rfl, -⟩⟩ :=
      readTemplate_eq_some_iff.mp template
    · rw [readDeclaration_of_template (keyword?_found_append breaks keyword)]
      exact ⟨rest ++ tail, readTemplate_append breaks template, .append breaks rest⟩
    · cases clear
  · obtain ⟨behind, _, _, keyword, -⟩ := readDirective_eq_some_iff.mp directive
    rw [readDeclaration_of_directive
      (keyword.imp (keyword?_found_append breaks) (keyword?_found_append breaks))]
    exact readDirective_append breaks directive

/-- A semicolon on its own is no declaration. -/
theorem readDeclaration_semicolon (rest : List Char) : readDeclaration (';' :: rest) = none :=
  readDeclaration_of_no_keyword fun keyword _ =>
    keyword?_eq_none_of_stop (by rintro c first; cases first; rfl) keyword

theorem readStatement_semicolon (rest : List Char) :
    readStatement (';' :: rest) = some (.empty, rest) := by
  rw [readStatement_eq, readDeclaration_semicolon]
  rfl

theorem readStatement_of_declaration (found : readDeclaration text = some (statement, rest)) :
    readStatement text = some (statement, rest) := by
  rw [readStatement_eq, found, Option.some_or]

/-- A statement that no one complains about is read alike before a tail. -/
theorem readStatement_append (breaks : BreaksLine tail)
    (found : readStatement text = some (statement, rest)) (clear : statement.complaint? = none)
    (closed : ¬ OpensComment (skipGap rest))
    (inert : skipGap rest = [] → word? (skipGap tail) = none) :
    ∃ further, readStatement (text ++ tail) = some (statement, further) ∧
      Continues tail rest further := by
  rw [readStatement_eq] at found
  rcases Option.or_eq_some_iff.mp found with declared | ⟨-, other⟩
  · obtain ⟨further, again, onward⟩ := readDeclaration_append breaks declared clear closed inert
    exact ⟨further, readStatement_of_declaration again, onward⟩
  rcases Option.or_eq_some_iff.mp other with empty | ⟨-, unread⟩
  · obtain ⟨rfl, rfl⟩ := readEmpty_eq_some_iff.mp empty
    exact ⟨rest ++ tail, readStatement_semicolon (rest ++ tail), .append breaks rest⟩
  · obtain ⟨-, rfl, -⟩ := readUnrecognized_eq_some_iff.mp unread
    cases clear

/-! ## Outlines before a tail -/

/-- A statement stands where there is something to read. -/
theorem readable_of_readStatement (found : readStatement text = some (statement, rest)) :
    Readable text := by
  rw [readStatement_eq] at found
  rcases Option.or_eq_some_iff.mp found with declared | ⟨-, other⟩
  · by_contra unreadable
    have nothing : readDeclaration text = none := by
      refine readDeclaration_of_no_keyword fun keyword _ => ?_
      by_contra found
      obtain ⟨behind, found⟩ := Option.ne_none_iff_exists'.mp found
      exact unreadable (readable_of_keyword? found)
    rw [nothing] at declared
    cases declared
  rcases Option.or_eq_some_iff.mp other with empty | ⟨-, unread⟩
  · obtain ⟨rfl, -⟩ := readEmpty_eq_some_iff.mp empty
    exact readable_cons (by decide) rest
  · obtain ⟨part, -⟩ := readUnrecognized_eq_some_iff.mp unread
    refine ⟨?_, ?_⟩
    · rintro rfl
      exact part rfl
    · rintro ⟨inside, rfl, -⟩
      exact part rfl

/-- A comment that is left open cannot be read. -/
theorem outline_of_opensComment (opens : OpensComment (skipGap text)) :
    outline text = ([], skipGap text) := by
  rw [outline_eq]
  split
  · rename_i found
    exact absurd opens (readable_of_readStatement found).closed
  · rfl

/-- Where a header can be read to its end, no comment is left open. -/
theorem closed_of_outline {statements : List Located} (outlined : outline text = (statements, [])) :
    ¬ OpensComment (skipGap text) := by
  intro opens
  rw [outline_of_opensComment opens] at outlined
  obtain ⟨inside, same, -⟩ := opens
  rw [same] at outlined
  cases (Prod.mk.inj outlined).2

/-- The same statement of a header that goes on with a tail. -/
def Located.before (tail : List Char) (located : Located) : Located :=
  ⟨located.start ++ tail, located.statement⟩

/-- **The statements of a header are those of the longer header.** Let `clear` be the first
statements of a header that can be read to its end, with nothing to complain about. The longer
header begins with the same statements. Where the header goes on behind them, the longer one goes
on in the same way; where it has ended, the longer one goes on in the tail, provided that the tail
does not begin with a word. -/
theorem outline_of_continues (breaks : BreaksLine tail) {clear more : List Located}
    (quiet : ∀ located ∈ clear, located.statement.complaint? = none)
    (inert : more = [] → word? (skipGap tail) = none) :
    ∀ {text longer : List Char}, Continues tail text longer →
      outline text = (clear ++ more, []) →
        ∃ left further, Continues tail left further ∧ outline left = (more, []) ∧
          outline longer =
            (clear.map (Located.before tail) ++ (outline further).1, (outline further).2) := by
  -- a statement leaves its own pair of remainders, so the induction carries `Continues`
  induction clear with
  | nil =>
      intro text longer continues outlined
      exact ⟨text, longer, continues, outlined, rfl⟩
  | cons located clear ih =>
      intro text longer continues outlined
      have first := quiet located (List.mem_cons_self ..)
      rw [outline_eq] at outlined
      split at outlined
      · rename_i statement rest found
        obtain ⟨same, whole⟩ := Prod.mk.inj outlined
        obtain ⟨rfl, behind⟩ := List.cons.inj same
        have remaining : outline rest = (clear ++ more, []) := Prod.ext behind whole
        have readable := readable_of_readStatement found
        have ends : skipGap rest = [] → clear ++ more = [] := by
          intro gap
          rw [← outline_skipGap, gap, outline_nil] at remaining
          exact (Prod.mk.inj remaining).1.symm
        obtain ⟨further, again, onward⟩ := readStatement_append breaks found first
          (closed_of_outline remaining) fun gap => inert (List.append_eq_nil_iff.mp (ends gap)).2
        rw [← continues.kept readable] at again
        obtain ⟨left, beyond, continues', outlined', longer'⟩ :=
          ih (fun located member => quiet located (List.mem_cons_of_mem _ member)) onward remaining
        refine ⟨left, beyond, continues', outlined', ?_⟩
        rw [outline_of_statement again, longer', continues.kept readable]
        rfl
      · cases outlined

end RuleVocabulary.Header
