import RuleVocabulary.Header.Expectation
import RuleVocabulary.Proofs.Header.Word

/-!
# What a statement is read from

Each form of a statement is described once, by what has to be read for it (`readGlobal_eq_some_iff`
and its kin), and later proofs cite that description. From it follows that what is left behind a
statement, and in the end behind all of them, is an ending of the text (`readStatement_suffix`,
`outline_suffix`).

A keyword at the front of a text settles the form: all others fail there, and only the catch-all is
left to fall back on (`readStatement_of_global` and its kin). An outline depends on what stands
behind the gap at the front of a text, and on nothing else (`outline_congr`).
-/

set_option autoImplicit false

namespace RuleVocabulary.Header

variable {text rest : List Char} {statement : Statement}

/-! ## The forms of a statement -/

theorem readPackage_eq_some_iff :
    readPackage text = some (statement, rest) ↔
      ∃ behind name last, keyword? .packageWord text = some behind ∧
        qualifiedName? (skipGap behind) = some (name, last) ∧
        statement = .package (String.ofList name) ∧ rest = skipSemicolon last := by
  unfold readPackage
  cases keyword? .packageWord text with
  | none => simp
  | some behind =>
      rcases found : qualifiedName? (skipGap behind) with _ | ⟨name, last⟩ <;>
        simp [found, eq_comm, and_assoc]

theorem readFunctionImport_eq_some_iff :
    readFunctionImport text = some (statement, rest) ↔
      ∃ behind further target last, keyword? .importWord text = some behind ∧
        keyword? .functionWord (skipGap behind) = some further ∧
        qualifiedName? (skipGap further) = some (target, last) ∧
        statement = .functionImport (String.ofList target) ∧ rest = skipSemicolon last := by
  unfold readFunctionImport
  cases keyword? .importWord text with
  | none => simp
  | some behind =>
      cases function : keyword? .functionWord (skipGap behind) with
      | none => simp [function]
      | some further =>
          rcases found : qualifiedName? (skipGap further) with _ | ⟨target, last⟩ <;>
            simp [function, found, eq_comm, and_assoc]

theorem readTypeImport_eq_some_iff :
    readTypeImport text = some (statement, rest) ↔
      ∃ behind target last, keyword? .importWord text = some behind ∧
        qualifiedName? (skipGap behind) = some (target, last) ∧
        statement = .typeImport (String.ofList target) ∧ rest = skipSemicolon last := by
  unfold readTypeImport
  cases keyword? .importWord text with
  | none => simp
  | some behind =>
      rcases found : qualifiedName? (skipGap behind) with _ | ⟨name, last⟩ <;>
        simp [found, eq_comm, and_assoc]

theorem typedName?_eq_some_iff {typeName name : List Char} :
    typedName? text = some ((typeName, name), rest) ↔
      ∃ behind, typeName? text = some (typeName, behind) ∧
        word? (skipGap behind) = some (name, rest) := by
  constructor
  · intro found
    unfold typedName? at found
    split at found
    · cases found
    · rename_i type behind typed
      split at found
      · cases found
      · rename_i word last named
        cases found
        exact ⟨behind, typed, named⟩
  · rintro ⟨behind, typed, named⟩
    simp [typedName?, typed, named]

theorem readGlobal_eq_some_iff :
    readGlobal text = some (statement, rest) ↔
      ∃ behind typeName name last, keyword? .globalWord text = some behind ∧
        typedName? (skipGap behind) = some ((typeName, name), last) ∧
        statement = .global (String.ofList typeName) (String.ofList name) ∧
        rest = skipSemicolon last := by
  unfold readGlobal
  cases keyword? .globalWord text with
  | none => simp
  | some behind =>
      rcases found : typedName? (skipGap behind) with _ | ⟨⟨typeName, name⟩, last⟩ <;>
        simp [found, eq_comm, and_assoc]

theorem readField_eq_some_iff {field : TemplateField} :
    readField text = some (field, rest) ↔
      startsReserved text = false ∧ ∃ typeName name last,
        typedName? text = some ((typeName, name), last) ∧
        field = ⟨String.ofList name, String.ofList typeName⟩ ∧ rest = skipSemicolon last := by
  unfold readField
  cases startsReserved text with
  | true => simp
  | false =>
      rcases typedName? text with _ | ⟨⟨typeName, name⟩, last⟩ <;> simp [eq_comm, and_assoc]

/-- The fields of a template are read one by one, behind the gap in front of each. -/
theorem readFields_eq (text : List Char) :
    readFields text =
      match readField (skipGap text) with
      | some (field, rest) => (field :: (readFields rest).1, (readFields rest).2)
      | none => ([], skipGap text) := by
  rw [readFields]
  split <;> rename_i found <;> simp [found]

/-- A name of a template is a quoted string or else a word. -/
theorem templateName?_eq (text : List Char) :
    templateName? text = (quoted? text).or (word? text) := by
  unfold templateName?
  cases quoted? text <;> rfl

theorem readTemplate_eq_some_iff :
    readTemplate text = some (statement, rest) ↔
      ∃ behind name further, keyword? .templateWord text = some behind ∧
        templateName? (skipGap behind) = some (name, further) ∧
        ((keyword? .endWord (readFields further).2 = some rest ∧
            statement = .template ⟨String.ofList name, (readFields further).1⟩ true) ∨
          (keyword? .endWord (readFields further).2 = none ∧
            ((readFields further).2 = [] ∨ startsReserved (readFields further).2 = true) ∧
            statement = .template ⟨String.ofList name, (readFields further).1⟩ false ∧
            rest = (readFields further).2)) := by
  constructor
  · intro found
    unfold readTemplate at found
    split at found
    · cases found
    · rename_i behind keyword
      split at found
      · cases found
      · rename_i name further named
        refine ⟨behind, name, further, keyword, named, ?_⟩
        simp only at found
        split at found
        · rename_i last ended
          cases found
          exact .inl ⟨ended, rfl⟩
        · rename_i missing
          split at found
          · rename_i stops
            cases found
            exact .inr ⟨missing, by simpa using stops, rfl, rfl⟩
          · cases found
  · rintro ⟨behind, name, further, keyword, named, ⟨ended, rfl⟩ | ⟨missing, stops, rfl, rfl⟩⟩
    · simp [readTemplate, keyword, named, ended]
    · simp [readTemplate, keyword, named, missing, stops]

/-- What a directive is given: a quoted string or else a dotted name. -/
def directiveArgument? (text : List Char) : Option (List Char × List Char) :=
  (quoted? text).or (qualifiedName? text)

theorem readDirective_eq_some_iff :
    readDirective text = some (statement, rest) ↔
      ∃ behind argument last,
        (keyword? .expanderWord text = some behind ∨ keyword? .dialectWord text = some behind) ∧
        directiveArgument? (skipGap behind) = some (argument, last) ∧
        statement = .directive ∧ rest = skipSemicolon last := by
  have either : ∀ behind, (keyword? .expanderWord text).or (keyword? .dialectWord text) =
      some behind ↔
        keyword? .expanderWord text = some behind ∨ keyword? .dialectWord text = some behind := by
    intro behind
    rw [Option.or_eq_some_iff]
    constructor
    · rintro (found | ⟨-, found⟩)
      · exact .inl found
      · exact .inr found
    · rintro (found | found)
      · exact .inl found
      · exact .inr ⟨keyword?_eq_none_of_ne found (by decide), found⟩
  unfold readDirective
  simp only [← either]
  cases (keyword? .expanderWord text).or (keyword? .dialectWord text) with
  | none => simp
  | some behind =>
      unfold directiveArgument?
      rcases found : (quoted? (skipGap behind)).or (qualifiedName? (skipGap behind)) with
        _ | ⟨argument, last⟩ <;> simp [found, eq_comm, and_assoc]

theorem readEmpty_eq_some_iff :
    readEmpty text = some (statement, rest) ↔ text = ';' :: rest ∧ statement = .empty := by
  unfold readEmpty
  split <;> simp_all [eq_comm, and_comm]

/-- What is recognized in no other way is not empty, and a semicolon behind it is read with it. -/
theorem readUnrecognized_eq_some_iff :
    readUnrecognized text = some (statement, rest) ↔
      (unrecognizedPart text).1 ≠ [] ∧
        statement = .unrecognized (String.ofList (unrecognizedPart text).1) ∧
        ((unrecognizedPart text).2 = ';' :: rest ∨
          (∀ further, (unrecognizedPart text).2 ≠ ';' :: further) ∧
            rest = (unrecognizedPart text).2) := by
  unfold readUnrecognized
  split
  · rename_i cut
    simp [cut]
  · rename_i part behind notNil cut
    have nonempty : part ≠ [] := notNil
    simp [cut, nonempty, eq_comm]
  · rename_i part behind notNil noSemicolon cut
    have nonempty : part ≠ [] := notNil
    have other : ∀ further, behind ≠ ';' :: further := noSemicolon
    simp [cut, nonempty, other, eq_comm]

theorem readUnrecognized_eq_none_iff :
    readUnrecognized text = none ↔ (unrecognizedPart text).1 = [] := by
  unfold readUnrecognized
  split
  · rename_i cut
    simp [cut]
  · rename_i part behind notNil cut
    have nonempty : part ≠ [] := notNil
    simp [cut, nonempty]
  · rename_i part behind notNil noSemicolon cut
    have nonempty : part ≠ [] := notNil
    simp [cut, nonempty]

section Missing

/-! Behind its keyword, a form fails where its other tokens are missing. -/

variable {behind : List Char}

theorem readPackage_eq_none_iff (found : keyword? .packageWord text = some behind) :
    readPackage text = none ↔ qualifiedName? (skipGap behind) = none := by
  unfold readPackage
  cases named : qualifiedName? (skipGap behind) <;> simp [found, named]

theorem readTypeImport_eq_none_iff (found : keyword? .importWord text = some behind) :
    readTypeImport text = none ↔ qualifiedName? (skipGap behind) = none := by
  unfold readTypeImport
  cases named : qualifiedName? (skipGap behind) <;> simp [found, named]

theorem readGlobal_eq_none_iff (found : keyword? .globalWord text = some behind) :
    readGlobal text = none ↔ typedName? (skipGap behind) = none := by
  unfold readGlobal
  cases typed : typedName? (skipGap behind) <;> simp [found, typed]

/-- A template that has a name is read unless its fields end at something that is neither a
reserved keyword nor the end of the text. -/
theorem readTemplate_eq_none_iff {name further : List Char}
    (found : keyword? .templateWord text = some behind)
    (named : templateName? (skipGap behind) = some (name, further)) :
    readTemplate text = none ↔
      (readFields further).2 ≠ [] ∧ startsReserved (readFields further).2 = false := by
  simp only [readTemplate, found, named]
  split
  · rename_i rest ended
    simp [startsReserved_of_keyword? (by decide) ended]
  · simp

theorem readDirective_eq_none_iff
    (found : keyword? .expanderWord text = some behind ∨ keyword? .dialectWord text = some behind) :
    readDirective text = none ↔ directiveArgument? (skipGap behind) = none := by
  have either : (keyword? .expanderWord text).or (keyword? .dialectWord text) = some behind := by
    rcases found with found | found
    · rw [found, Option.some_or]
    · rw [keyword?_eq_none_of_ne found (by decide), Option.none_or, found]
  unfold readDirective directiveArgument?
  cases given : (quoted? (skipGap behind)).or (qualifiedName? (skipGap behind)) <;>
    simp [either, given]

end Missing

/-! ## What is left is an ending of the text -/

theorem typedName?_suffix {names : List Char × List Char}
    (found : typedName? text = some (names, rest)) : rest <:+ text := by
  obtain ⟨behind, type, name⟩ := typedName?_eq_some_iff.mp found
  exact ((word?_suffix name).trans (skipGap_suffix behind)).trans (typeName?_suffix type)

theorem readFields_suffix (text : List Char) : (readFields text).2 <:+ text := by
  fun_induction readFields text with
  | case1 text field rest found _ more ih =>
      obtain ⟨-, _, _, last, typed, -, rfl⟩ := readField_eq_some_iff.mp found
      exact ((ih.trans (skipSemicolon_suffix last)).trans (typedName?_suffix typed)).trans
        (skipGap_suffix text)
  | case2 text _ => exact skipGap_suffix text

theorem templateName?_suffix {name : List Char} (found : templateName? text = some (name, rest)) :
    rest <:+ text := by
  rw [templateName?_eq] at found
  rcases Option.or_eq_some_iff.mp found with inside | ⟨-, word⟩
  · exact quoted?_suffix inside
  · exact word?_suffix word

theorem directiveArgument?_suffix {argument : List Char}
    (found : directiveArgument? text = some (argument, rest)) : rest <:+ text := by
  rcases Option.or_eq_some_iff.mp found with inside | ⟨-, name⟩
  · exact quoted?_suffix inside
  · exact qualifiedName?_suffix name

theorem readPackage_suffix (found : readPackage text = some (statement, rest)) : rest <:+ text := by
  obtain ⟨behind, name, last, keyword, named, -, rfl⟩ := readPackage_eq_some_iff.mp found
  exact (((skipSemicolon_suffix last).trans (qualifiedName?_suffix named)).trans
    (skipGap_suffix behind)).trans (keyword?_suffix keyword)

theorem readFunctionImport_suffix (found : readFunctionImport text = some (statement, rest)) :
    rest <:+ text := by
  obtain ⟨behind, further, name, last, keyword, function, named, -, rfl⟩ :=
    readFunctionImport_eq_some_iff.mp found
  have inner := ((skipSemicolon_suffix last).trans (qualifiedName?_suffix named)).trans
    (skipGap_suffix further)
  exact ((inner.trans (keyword?_suffix function)).trans (skipGap_suffix behind)).trans
    (keyword?_suffix keyword)

theorem readTypeImport_suffix (found : readTypeImport text = some (statement, rest)) :
    rest <:+ text := by
  obtain ⟨behind, name, last, keyword, named, -, rfl⟩ := readTypeImport_eq_some_iff.mp found
  exact (((skipSemicolon_suffix last).trans (qualifiedName?_suffix named)).trans
    (skipGap_suffix behind)).trans (keyword?_suffix keyword)

theorem readGlobal_suffix (found : readGlobal text = some (statement, rest)) : rest <:+ text := by
  obtain ⟨behind, _, _, last, keyword, typed, -, rfl⟩ := readGlobal_eq_some_iff.mp found
  exact (((skipSemicolon_suffix last).trans (typedName?_suffix typed)).trans
    (skipGap_suffix behind)).trans (keyword?_suffix keyword)

theorem readTemplate_suffix (found : readTemplate text = some (statement, rest)) :
    rest <:+ text := by
  obtain ⟨behind, _, further, keyword, named, closed⟩ := readTemplate_eq_some_iff.mp found
  have outer : (readFields further).2 <:+ text :=
    (((readFields_suffix further).trans (templateName?_suffix named)).trans
      (skipGap_suffix behind)).trans (keyword?_suffix keyword)
  rcases closed with ⟨ended, -⟩ | ⟨-, -, -, rfl⟩
  · exact (keyword?_suffix ended).trans outer
  · exact outer

theorem readDirective_suffix (found : readDirective text = some (statement, rest)) :
    rest <:+ text := by
  obtain ⟨behind, _, last, keyword, argument, -, rfl⟩ := readDirective_eq_some_iff.mp found
  have inner := ((skipSemicolon_suffix last).trans (directiveArgument?_suffix argument)).trans
    (skipGap_suffix behind)
  rcases keyword with keyword | keyword
  · exact inner.trans (keyword?_suffix keyword)
  · exact inner.trans (keyword?_suffix keyword)

theorem readUnrecognized_suffix (found : readUnrecognized text = some (statement, rest)) :
    rest <:+ text := by
  have outer : (unrecognizedPart text).2 <:+ text := ⟨_, unrecognizedPart_append text⟩
  obtain ⟨-, -, semicolon | ⟨-, rfl⟩⟩ := readUnrecognized_eq_some_iff.mp found
  · rw [semicolon] at outer
    exact (List.suffix_cons ';' rest).trans outer
  · exact outer

/-! ## The choice of a form -/

/-- Everything but a lone semicolon and the catch-all: the first declaration that accepts the
text. -/
def readDeclaration (text : List Char) : Option (Statement × List Char) :=
  (readPackage text).or <| (readFunctionImport text).or <| (readTypeImport text).or <|
    (readGlobal text).or <| (readTemplate text).or (readDirective text)

theorem readStatement_eq (text : List Char) :
    readStatement text =
      (readDeclaration text).or ((readEmpty text).or (readUnrecognized text)) := by
  simp only [readStatement, readDeclaration, Option.or_assoc]

/-- A statement is a declaration, a lone semicolon or what is accepted in no other way. -/
theorem readStatement_cases (found : readStatement text = some (statement, rest)) :
    readDeclaration text = some (statement, rest) ∨ (text = ';' :: rest ∧ statement = .empty) ∨
      readUnrecognized text = some (statement, rest) := by
  rw [readStatement_eq] at found
  rcases Option.or_eq_some_iff.mp found with declared | ⟨-, found⟩
  · exact .inl declared
  rcases Option.or_eq_some_iff.mp found with empty | ⟨-, unread⟩
  · exact .inr (.inl (readEmpty_eq_some_iff.mp empty))
  · exact .inr (.inr unread)

/-- A declaration is of the first form that accepts the text. -/
theorem readDeclaration_cases (found : readDeclaration text = some (statement, rest)) :
    readPackage text = some (statement, rest) ∨
      readFunctionImport text = some (statement, rest) ∨
      (readFunctionImport text = none ∧ readTypeImport text = some (statement, rest)) ∨
      readGlobal text = some (statement, rest) ∨ readTemplate text = some (statement, rest) ∨
      readDirective text = some (statement, rest) := by
  unfold readDeclaration at found
  rcases Option.or_eq_some_iff.mp found with found | ⟨-, found⟩
  · exact .inl found
  rcases Option.or_eq_some_iff.mp found with found | ⟨noFunction, found⟩
  · exact .inr (.inl found)
  rcases Option.or_eq_some_iff.mp found with found | ⟨-, found⟩
  · exact .inr (.inr (.inl ⟨noFunction, found⟩))
  rcases Option.or_eq_some_iff.mp found with found | ⟨-, found⟩
  · exact .inr (.inr (.inr (.inl found)))
  rcases Option.or_eq_some_iff.mp found with found | ⟨-, found⟩
  · exact .inr (.inr (.inr (.inr (.inl found))))
  · exact .inr (.inr (.inr (.inr (.inr found))))

/-- No declaration is a statement that is not recognized. -/
theorem readDeclaration_ne_unrecognized (part : String) :
    readDeclaration text ≠ some (.unrecognized part, rest) := by
  intro found
  rcases readDeclaration_cases found with
    package | function | ⟨-, type⟩ | global | template | directive
  · obtain ⟨_, _, _, -, -, same, -⟩ := readPackage_eq_some_iff.mp package
    cases same
  · obtain ⟨_, _, _, _, -, -, -, same, -⟩ := readFunctionImport_eq_some_iff.mp function
    cases same
  · obtain ⟨_, _, _, -, -, same, -⟩ := readTypeImport_eq_some_iff.mp type
    cases same
  · obtain ⟨_, _, _, _, -, -, same, -⟩ := readGlobal_eq_some_iff.mp global
    cases same
  · obtain ⟨_, _, _, -, -, ⟨-, same⟩ | ⟨-, -, same, -⟩⟩ := readTemplate_eq_some_iff.mp template
    · cases same
    · cases same
  · obtain ⟨_, _, _, -, -, same, -⟩ := readDirective_eq_some_iff.mp directive
    cases same

theorem readDeclaration_suffix (found : readDeclaration text = some (statement, rest)) :
    rest <:+ text := by
  rcases readDeclaration_cases found with
    found | found | ⟨-, found⟩ | found | found | found
  · exact readPackage_suffix found
  · exact readFunctionImport_suffix found
  · exact readTypeImport_suffix found
  · exact readGlobal_suffix found
  · exact readTemplate_suffix found
  · exact readDirective_suffix found

/-- What is left behind a statement is an ending of the text. -/
theorem readStatement_suffix (found : readStatement text = some (statement, rest)) :
    rest <:+ text := by
  rcases readStatement_cases found with declared | ⟨rfl, -⟩ | unread
  · exact readDeclaration_suffix declared
  · exact List.suffix_cons ';' rest
  · exact readUnrecognized_suffix unread

section Keywords

variable {behind : List Char}

theorem readDeclaration_of_package (found : keyword? .packageWord text = some behind) :
    readDeclaration text = readPackage text := by
  simp [readDeclaration, readFunctionImport, readTypeImport, readGlobal, readTemplate,
    readDirective, keyword?_eq_none_of_ne found]

theorem readDeclaration_of_import (found : keyword? .importWord text = some behind) :
    readDeclaration text = (readFunctionImport text).or (readTypeImport text) := by
  simp [readDeclaration, readPackage, readGlobal, readTemplate, readDirective,
    keyword?_eq_none_of_ne found]

theorem readDeclaration_of_global (found : keyword? .globalWord text = some behind) :
    readDeclaration text = readGlobal text := by
  simp [readDeclaration, readPackage, readFunctionImport, readTypeImport, readTemplate,
    readDirective, keyword?_eq_none_of_ne found]

theorem readDeclaration_of_template (found : keyword? .templateWord text = some behind) :
    readDeclaration text = readTemplate text := by
  simp [readDeclaration, readPackage, readFunctionImport, readTypeImport, readGlobal,
    readDirective, keyword?_eq_none_of_ne found]

theorem readDeclaration_of_directive
    (found : keyword? .expanderWord text = some behind ∨ keyword? .dialectWord text = some behind) :
    readDeclaration text = readDirective text := by
  rcases found with found | found <;>
    simp [readDeclaration, readPackage, readFunctionImport, readTypeImport, readGlobal,
      readTemplate, keyword?_eq_none_of_ne found]

/-- Where no keyword stands that starts a statement, nothing is declared. -/
theorem readDeclaration_of_no_keyword
    (missing : ∀ keyword ∈ statementKeywords, keyword? keyword text = none) :
    readDeclaration text = none := by
  have package := missing .packageWord (by decide)
  have import' := missing .importWord (by decide)
  have global := missing .globalWord (by decide)
  have template := missing .templateWord (by decide)
  have expander := missing .expanderWord (by decide)
  have dialect := missing .dialectWord (by decide)
  simp [readDeclaration, readPackage, readFunctionImport, readTypeImport, readGlobal,
    readTemplate, readDirective, package, import', global, template, expander, dialect]

end Keywords

/-- No keyword begins with a character that no word can hold. -/
theorem keyword?_eq_none_of_stop (stops : ∀ c ∈ text.head?, isWordPart c = false)
    (keyword : Keyword) : keyword? keyword text = none := by
  by_contra found
  obtain ⟨behind, found⟩ := Option.ne_none_iff_exists'.mp found
  have front := (keyword?_eq_some_iff.mp found).1
  have stopped : text.takeWhile isWordPart = [] := by
    cases text with
    | nil => rfl
    | cons c rest => simp [stops c rfl]
  rw [stopped] at front
  cases keyword <;> cases front

/-! ## Outlines -/

/-- The first statement of a header is read behind the gap at its front. -/
theorem outline_eq (text : List Char) :
    outline text =
      match readStatement (skipGap text) with
      | some (statement, rest) =>
        (⟨skipGap text, statement⟩ :: (outline rest).1, (outline rest).2)
      | none => ([], skipGap text) := by
  rw [outline]
  split <;> rename_i found <;> simp [found]

theorem outline_of_statement (found : readStatement (skipGap text) = some (statement, rest)) :
    outline text = (⟨skipGap text, statement⟩ :: (outline rest).1, (outline rest).2) := by
  rw [outline_eq, found]

/-- **An outline depends on what stands behind the gap at the front.** -/
theorem outline_congr {other : List Char} (same : skipGap text = skipGap other) :
    outline text = outline other := by
  rw [outline_eq text, outline_eq other, same]

@[simp]
theorem outline_skipGap (text : List Char) : outline (skipGap text) = outline text :=
  outline_congr (skipGap_skipGap text)

theorem outline_nil : outline [] = ([], []) := by
  rw [outline_eq]
  rfl

/-- A statement of a header is read where it begins, and the header goes on behind it. -/
theorem readStatement_of_outline {earlier later : List Located} {start stuck : List Char} :
    ∀ {text}, outline text = (earlier ++ ⟨start, statement⟩ :: later, stuck) →
      ∃ rest, skipGap start = start ∧ readStatement start = some (statement, rest) ∧
        outline rest = (later, stuck) := by
  induction earlier with
  | nil =>
      intro text outlined
      rw [outline_eq] at outlined
      split at outlined
      · rename_i found
        cases outlined
        exact ⟨_, skipGap_skipGap text, found, rfl⟩
      · cases outlined
  | cons located earlier ih =>
      intro text outlined
      rw [outline_eq] at outlined
      split at outlined
      · rename_i rest found
        obtain ⟨same, behind⟩ := Prod.mk.inj outlined
        exact ih (Prod.ext (List.cons.inj same).2 behind)
      · cases outlined

/-- What cannot be read is an ending of the header. -/
theorem outline_suffix (text : List Char) : (outline text).2 <:+ text := by
  fun_induction outline text with
  | case1 text statement rest found _ more ih =>
      exact (ih.trans (readStatement_suffix found)).trans (skipGap_suffix text)
  | case2 text _ => exact skipGap_suffix text

/-- Each statement begins an ending of the header. -/
theorem start_suffix_of_mem_outline (text : List Char) :
    ∀ located ∈ (outline text).1, located.start <:+ text := by
  fun_induction outline text with
  | case1 text statement rest found _ more ih =>
      intro located member
      rcases List.mem_cons.mp member with rfl | later
      · exact skipGap_suffix text
      · exact ((ih located later).trans (readStatement_suffix found)).trans (skipGap_suffix text)
  | case2 => exact nofun

end RuleVocabulary.Header
