import RuleVocabulary.Proofs.Header.Declaration
import RuleVocabulary.Proofs.Header.Reading
import RuleVocabulary.Proofs.Header.Tail

/-!
# Headers are read as they were written

A token that is written before a blank or a semicolon is read as that token, with what follows left
behind it (`qualifiedName?_chars` and its kin). So a declaration that is laid out is read as the
statement it stands for, whatever the gaps are and whatever follows (`readDeclaration_laid`).
Keywords cannot mislead the reader: a keyword decides about the form only where a statement begins,
an import of something called `function` is no import of a function because no other name follows,
and the type of a field is not reserved.

Main statement: a header that is laid out is read without problems, and what is read is what its
declarations declare (`reading_of_layOut`).
-/

set_option autoImplicit false

namespace RuleVocabulary.Header

variable {text rest tail : List Char}

/-! ## Tokens before a blank or a semicolon -/

namespace EndsName

theorem stopsWord (ends : EndsName tail) : ∀ c ∈ tail.head?, isWordPart c = false := by
  intro c first
  rcases ends c first with blank | rfl
  · exact isWordPart_of_isGapBlank blank
  · rfl

theorem ne (ends : EndsName tail) {d : Char} (solid : isGapBlank d = false) (other : d ≠ ';') :
    ∀ c ∈ tail.head?, c ≠ d := by
  rintro c first rfl
  rcases ends c first with blank | semicolon
  · rw [solid] at blank
    cases blank
  · exact other semicolon

end EndsName

theorem Word.isWordPart_of_mem (word : Word) : ∀ c ∈ word.chars, isWordPart c = true := by
  intro c member
  rcases List.mem_cons.mp member with rfl | other
  · exact isWordPart_of_isWordStart word.starts
  · exact word.goesOn c other

theorem takeWhile_chars (word : Word) (stops : ∀ c ∈ rest.head?, isWordPart c = false) :
    (word.chars ++ rest).takeWhile isWordPart = word.chars := by
  rw [takeWhile_append_of_stop stops, List.takeWhile_eq_self_iff.mpr word.isWordPart_of_mem]

theorem word?_chars (word : Word) (stops : ∀ c ∈ rest.head?, isWordPart c = false) :
    word? (word.chars ++ rest) = some (word.chars, rest) := by
  rw [Word.chars, List.cons_append, word?, if_pos word.starts, takeWhile_append_of_stop stops,
    dropWhile_append_of_stop stops, List.takeWhile_eq_self_iff.mpr word.goesOn,
    List.dropWhile_eq_nil_iff.mpr word.goesOn, List.nil_append]

theorem stopsWord_dotted (words : List Word) (stops : ∀ c ∈ rest.head?, isWordPart c = false) :
    ∀ c ∈ (Word.dotted words ++ rest).head?, isWordPart c = false := by
  cases words with
  | nil => exact stops
  | cons word words =>
      rintro c first
      obtain rfl := Option.some.inj first
      rfl

theorem dottedWords_dotted (words : List Word) (stops : ∀ c ∈ rest.head?, isWordPart c = false)
    (ends : dottedWords rest = ([], rest)) :
    dottedWords (Word.dotted words ++ rest) = (Word.dotted words, rest) := by
  induction words with
  | nil => exact ends
  | cons word words ih =>
      have cut : Word.dotted (word :: words) ++ rest =
          '.' :: (word.chars ++ (Word.dotted words ++ rest)) := by
        simp [Word.dotted]
      rw [cut, dottedWords_of_word (word?_chars word (stopsWord_dotted words stops)), ih]
      rfl

theorem QualifiedName.stopsWord (name : QualifiedName) (ends : EndsName tail) :
    ∀ c ∈ (name.others ++ tail).head?, isWordPart c = false := by
  rw [QualifiedName.others, List.append_assoc]
  refine stopsWord_dotted name.more ?_
  cases name.isWildcard
  · exact ends.stopsWord
  · rintro c first
    obtain rfl := Option.some.inj first
    rfl

theorem wildcard_eq_nil (ends : EndsName tail) : wildcard tail = ([], tail) := by
  rw [wildcard]
  rintro further rfl
  exact ends.ne rfl (by decide) '.' rfl rfl

theorem qualifiedName?_chars (name : QualifiedName) (ends : EndsName tail) :
    qualifiedName? (name.chars ++ tail) = some (name.chars, tail) := by
  have stops := name.stopsWord ends
  rw [qualifiedName?_eq, QualifiedName.chars, List.append_assoc, word?_chars name.first stops]
  cases final : name.isWildcard with
  | false =>
      have others : name.others = Word.dotted name.more := by simp [QualifiedName.others, final]
      have dotted : dottedWords (name.others ++ tail) = (Word.dotted name.more, tail) := by
        rw [others]
        exact dottedWords_dotted name.more ends.stopsWord
          (dottedWords_of_ne (ends.ne rfl (by decide)))
      simp only [Option.map_some, dotted, wildcard_eq_nil ends, List.append_nil]
      rw [others]
  | true =>
      have others : name.others = Word.dotted name.more ++ ['.', '*'] := by
        simp [QualifiedName.others, final]
      have dotted : dottedWords (name.others ++ tail) =
          (Word.dotted name.more, '.' :: '*' :: tail) := by
        rw [others, List.append_assoc]
        exact dottedWords_dotted name.more (by rintro c first; cases first; rfl)
          (dottedWords_of_none rfl)
      simp only [Option.map_some, dotted, wildcard]
      rw [others, List.append_assoc]

theorem brackets_replicate (ends : EndsName tail) (dimensions : Nat) :
    brackets ((List.replicate dimensions ['[', ']']).flatten ++ tail) =
      ((List.replicate dimensions ['[', ']']).flatten, tail) := by
  induction dimensions with
  | zero =>
      rw [List.replicate_zero, List.flatten_nil, List.nil_append, brackets]
      rintro further rfl
      exact ends.ne rfl (by decide) '[' rfl rfl
  | succ dimensions ih =>
      rw [List.replicate_succ, List.flatten_cons, List.append_assoc, List.cons_append,
        List.cons_append, List.nil_append, brackets, ih]
      rfl

theorem stops_brackets (ends : EndsName tail) (dimensions : Nat) :
    ∀ c ∈ ((List.replicate dimensions ['[', ']']).flatten ++ tail).head?,
      isWordPart c = false ∧ c ≠ '.' := by
  cases dimensions with
  | zero => exact fun c first => ⟨ends.stopsWord c first, ends.ne rfl (by decide) c first⟩
  | succ dimensions =>
      rintro c first
      obtain rfl := Option.some.inj first
      exact ⟨rfl, by decide⟩

theorem TypeName.stopsWord (type : TypeName) (ends : EndsName tail) :
    ∀ c ∈ (type.others ++ tail).head?, isWordPart c = false := by
  rw [TypeName.others, List.append_assoc]
  exact stopsWord_dotted type.more fun c first => (stops_brackets ends _ c first).1

theorem typeName?_chars (type : TypeName) (ends : EndsName tail) :
    typeName? (type.chars ++ tail) = some (type.chars, tail) := by
  have stops := stops_brackets ends type.dimensions
  have dotted : dottedWords (type.others ++ tail) = (Word.dotted type.more,
      (List.replicate type.dimensions ['[', ']']).flatten ++ tail) := by
    rw [TypeName.others, List.append_assoc]
    exact dottedWords_dotted type.more (fun c first => (stops c first).1)
      (dottedWords_of_ne fun c first => (stops c first).2)
  rw [typeName?_eq, TypeName.chars, List.append_assoc, word?_chars type.first (type.stopsWord ends)]
  simp only [Option.map_some, dotted, brackets_replicate ends]
  rw [TypeName.others, List.append_assoc]

theorem quoted?_chars (quoted : QuotedText) (tail : List Char) :
    quoted? (quoted.chars ++ tail) = some (quoted.inside, tail) := by
  have stops : ∀ c ∈ ('"' :: tail).head?, isQuotable c = false := by
    rintro c first
    obtain rfl := Option.some.inj first
    rfl
  simp only [QuotedText.chars, List.cons_append, List.append_assoc, List.nil_append, quoted?]
  rw [takeWhile_append_of_stop stops, dropWhile_append_of_stop stops,
    List.takeWhile_eq_self_iff.mpr quoted.quotable, List.dropWhile_eq_nil_iff.mpr quoted.quotable]
  rfl

theorem quoted?_eq_none (word : Word) (rest : List Char) : quoted? (word.chars ++ rest) = none := by
  refine quoted?_eq_none_of_ne ?_
  intro c first quote
  obtain rfl := Option.some.inj first
  have starts := word.starts
  rw [quote] at starts
  cases starts

theorem keyword?_spelling (ends : EndsName tail) (keyword : Keyword) :
    keyword? keyword (keyword.spelling ++ tail) = some tail := by
  rw [keyword?_eq_some_iff, takeWhile_append_of_stop ends.stopsWord,
    dropWhile_append_of_stop ends.stopsWord,
    List.takeWhile_eq_self_iff.mpr Keyword.isWordPart_of_mem,
    List.dropWhile_eq_nil_iff.mpr Keyword.isWordPart_of_mem]
  exact ⟨rfl, rfl⟩

/-- A type whose first word is not reserved does not begin with a reserved keyword. -/
theorem startsReserved_type {type : TypeName} (ends : EndsName tail)
    (free : ∀ keyword ∈ Keyword.reserved, type.first.chars ≠ keyword.spelling) :
    startsReserved (type.chars ++ tail) = false := by
  rw [startsReserved, List.any_eq_false]
  intro keyword reserved found
  obtain ⟨behind, found⟩ := Option.isSome_iff_exists.mp found
  have front := (keyword?_eq_some_iff.mp found).1
  rw [TypeName.chars, List.append_assoc, takeWhile_chars type.first (type.stopsWord ends)] at front
  exact free keyword reserved front

/-! ## Tokens behind a gap -/

section Laid

variable {tokens : List Token}

theorem keyword?_laid {keyword : Keyword} (laid : Lays (.keyword keyword :: tokens) text) :
    ∃ behind, keyword? keyword (skipGap text) = some behind ∧ Lays tokens behind := by
  obtain ⟨behind, same, further⟩ := laid.exists_behind
  exact ⟨behind, same ▸ keyword?_spelling further.endsName keyword, further⟩

theorem word?_laid {word : Word} (laid : Lays (.word word :: tokens) text) :
    ∃ behind, word? (skipGap text) = some (word.chars, behind) ∧ Lays tokens behind := by
  obtain ⟨behind, same, further⟩ := laid.exists_behind
  exact ⟨behind, same ▸ word?_chars word further.endsName.stopsWord, further⟩

theorem qualifiedName?_laid {name : QualifiedName} (laid : Lays (.name name :: tokens) text) :
    ∃ behind, qualifiedName? (skipGap text) = some (name.chars, behind) ∧ Lays tokens behind := by
  obtain ⟨behind, same, further⟩ := laid.exists_behind
  exact ⟨behind, same ▸ qualifiedName?_chars name further.endsName, further⟩

theorem typedName?_laid {type : TypeName} {name : Word}
    (laid : Lays (.type type :: .word name :: tokens) text) :
    ∃ behind, typedName? (skipGap text) = some ((type.chars, name.chars), behind) ∧
      Lays tokens behind := by
  obtain ⟨rest, same, further⟩ := laid.exists_behind
  obtain ⟨behind, named, last⟩ := word?_laid further
  exact ⟨behind, typedName?_eq_some_iff.mpr
    ⟨rest, same ▸ typeName?_chars type further.endsName, named⟩, last⟩

theorem quoted?_laid {quoted : QuotedText} (laid : Lays (.quoted quoted :: tokens) text) :
    ∃ behind, quoted? (skipGap text) = some (quoted.inside, behind) ∧ Lays tokens behind := by
  obtain ⟨behind, same, further⟩ := laid.exists_behind
  exact ⟨behind, same ▸ quoted?_chars quoted behind, further⟩

theorem directiveArgument?_laid {argument : QuotedText ⊕ QualifiedName}
    (laid : Lays (argument.elim Token.quoted Token.name :: tokens) text) :
    ∃ chars behind, directiveArgument? (skipGap text) = some (chars, behind) ∧
      Lays tokens behind := by
  cases argument with
  | inl quoted =>
      obtain ⟨behind, found, further⟩ := quoted?_laid laid
      exact ⟨_, behind, by rw [directiveArgument?, found, Option.some_or], further⟩
  | inr name =>
      obtain ⟨behind, found, further⟩ := qualifiedName?_laid laid
      have unquoted : quoted? (skipGap text) = none := by
        obtain ⟨rest, same, -⟩ := laid.exists_behind
        rw [same]
        exact (congrArg quoted? (List.append_assoc ..)).trans (quoted?_eq_none name.first _)
      exact ⟨_, behind, by rw [directiveArgument?, unquoted, Option.none_or, found], further⟩

theorem templateName?_laid {name : QuotedText ⊕ Word}
    (laid : Lays (name.elim Token.quoted Token.word :: tokens) text) :
    ∃ behind, templateName? (skipGap text) =
      some (name.elim QuotedText.inside Word.chars, behind) ∧ Lays tokens behind := by
  cases name with
  | inl quoted =>
      obtain ⟨behind, found, further⟩ := quoted?_laid laid
      exact ⟨behind, by rw [templateName?_eq, found, Option.some_or, Sum.elim_inl], further⟩
  | inr word =>
      obtain ⟨behind, found, further⟩ := word?_laid laid
      have unquoted : quoted? (skipGap text) = none := by
        obtain ⟨rest, same, -⟩ := laid.exists_behind
        rw [same]
        exact quoted?_eq_none word rest
      exact ⟨behind, by rw [templateName?_eq, unquoted, Option.none_or, found, Sum.elim_inr],
        further⟩

/-! ## Fields -/

theorem readField_laid {field : Field} (laid : Lays (field.tokens ++ tokens) text) :
    ∃ behind, readField (skipGap text) = some (field.declared, behind) ∧ Lays tokens behind := by
  obtain ⟨behind, typed, further⟩ := typedName?_laid laid
  refine ⟨_, readField_eq_some_iff.mpr ⟨?_, _, _, _, typed, rfl, rfl⟩, further.skipSemicolon⟩
  obtain ⟨rest, same, more⟩ := laid.exists_behind
  rw [same]
  exact startsReserved_type more.endsName field.free

/-- The fields of a template are read one by one, up to its `end`. -/
theorem readFields_laid {fields : List Field}
    (laid : Lays (fields.flatMap Field.tokens ++ .keyword .endWord :: tokens) text) :
    ∃ behind, readFields text = (fields.map Field.declared, skipGap behind) ∧
      Lays (.keyword .endWord :: tokens) behind := by
  induction fields generalizing text with
  | nil =>
      obtain ⟨_, ended, -⟩ := keyword?_laid laid
      refine ⟨text, readFields_of_none (readField_of_reserved ?_), laid⟩
      exact startsReserved_of_keyword? (by decide) ended
  | cons field fields ih =>
      rw [List.flatMap_cons, List.append_assoc] at laid
      obtain ⟨rest, read, further⟩ := readField_laid laid
      obtain ⟨behind, later, last⟩ := ih further
      refine ⟨behind, ?_, last⟩
      rw [readFields_eq, read]
      simp only [later, List.map_cons]

end Laid

/-! ## Declarations -/

namespace Declaration

/-- The statement that a declaration is read as. -/
def statement : Declaration → Statement
  | package name => .package name.text
  | typeImport target => .typeImport target.text
  | functionImport target => .functionImport target.text
  | global type name => .global type.text name.text
  | directive _ _ _ => .directive
  | template name fields =>
    .template ⟨name.elim QuotedText.text Word.text, fields.map Field.declared⟩ true

/-- The tokens that are left when the declaration has been read: a template ends before its
semicolon. -/
def left : Declaration → List Token
  | template _ _ => [.semicolon]
  | _ => []

end Declaration

/-- Behind the first word of a dotted name stands a dot, or nothing of it. -/
theorem QualifiedName.others_cases (name : QualifiedName) :
    name.others = [] ∨ ∃ more, name.others = '.' :: more := by
  unfold others
  cases name.more with
  | nil =>
      cases name.isWildcard
      · exact .inl rfl
      · exact .inr ⟨_, rfl⟩
  | cons word words => exact .inr ⟨_, rfl⟩

/-- An import of a type is none of a function, for no name follows its target. -/
theorem readFunctionImport_laid {target : QualifiedName} {tokens : List Token}
    (laid : Lays (.keyword .importWord :: .name target :: .semicolon :: tokens) text) :
    readFunctionImport (skipGap text) = none := by
  by_contra found
  obtain ⟨⟨_, _⟩, found⟩ := Option.ne_none_iff_exists'.mp found
  obtain ⟨_, further, _, _, keyword, function, named, -, -⟩ :=
    readFunctionImport_eq_some_iff.mp found
  obtain ⟨behind, imports, named'⟩ := keyword?_laid laid
  obtain rfl := Option.some.inj (imports.symm.trans keyword)
  obtain ⟨last, same, semicolon⟩ := named'.exists_behind
  have cut : skipGap behind = target.first.chars ++ (target.others ++ last) :=
    same.trans (List.append_assoc ..)
  have word := word?_of_keyword? function
  rw [cut, word?_chars target.first (target.stopsWord semicolon.endsName)] at word
  obtain rfl := (Prod.mk.inj (Option.some.inj word)).2
  -- a semicolon or a dot is left behind the first word, and no word begins with either
  have noWord : word? (skipGap (target.others ++ last)) = none := by
    rcases target.others_cases with alone | ⟨more, dot⟩
    · obtain ⟨_, same, -⟩ := semicolon.exists_behind
      rw [alone, List.nil_append, same]
      rfl
    · rw [dot, List.cons_append, skipGap_eq_self rfl (by decide) (by decide)]
      rfl
  rw [qualifiedName?_eq_none_iff.mpr noWord] at named
  cases named

theorem readTemplate_laid {name : QuotedText ⊕ Word} {fields : List Field} {tokens : List Token}
    (laid : Lays (.keyword .templateWord :: name.elim .quoted .word ::
      (fields.flatMap Field.tokens ++ .keyword .endWord :: tokens)) text) :
    ∃ behind, readTemplate (skipGap text) =
      some ((Declaration.template name fields).statement, behind) ∧ Lays tokens behind := by
  obtain ⟨first, keyword, further⟩ := keyword?_laid laid
  obtain ⟨second, named, further⟩ := templateName?_laid further
  obtain ⟨third, body, further⟩ := readFields_laid further
  obtain ⟨behind, ended, last⟩ := keyword?_laid further
  have text : String.ofList (name.elim QuotedText.inside Word.chars) =
      name.elim QuotedText.text Word.text := by cases name <;> rfl
  refine ⟨behind, readTemplate_eq_some_iff.mpr ⟨_, _, _, keyword, named, .inl ⟨?_, ?_⟩⟩, last⟩
  · rw [body]
    exact ended
  · rw [body, text]
    rfl

/-- **A declaration that is laid out is read as the statement it stands for.** -/
theorem readDeclaration_laid {declaration : Declaration} {tokens : List Token}
    (laid : Lays (declaration.tokens ++ tokens) text) :
    ∃ behind, readDeclaration (skipGap text) = some (declaration.statement, behind) ∧
      Lays (declaration.left ++ tokens) behind := by
  cases declaration with
  | package name =>
      obtain ⟨_, keyword, further⟩ := keyword?_laid laid
      obtain ⟨_, named, last⟩ := qualifiedName?_laid further
      exact ⟨_, (readDeclaration_of_package keyword).trans (readPackage_eq_some_iff.mpr
        ⟨_, _, _, keyword, named, rfl, rfl⟩), last.skipSemicolon⟩
  | typeImport target =>
      obtain ⟨_, keyword, further⟩ := keyword?_laid laid
      obtain ⟨_, named, last⟩ := qualifiedName?_laid further
      have reads := readTypeImport_eq_some_iff.mpr ⟨_, _, _, keyword, named, rfl, rfl⟩
      have whole := readDeclaration_of_import keyword
      rw [readFunctionImport_laid laid, Option.none_or, reads] at whole
      exact ⟨_, whole, last.skipSemicolon⟩
  | functionImport target =>
      obtain ⟨_, keyword, further⟩ := keyword?_laid laid
      obtain ⟨_, function, further⟩ := keyword?_laid further
      obtain ⟨_, named, last⟩ := qualifiedName?_laid further
      have reads := readFunctionImport_eq_some_iff.mpr
        ⟨_, _, _, _, keyword, function, named, rfl, rfl⟩
      have whole := readDeclaration_of_import keyword
      rw [reads, Option.some_or] at whole
      exact ⟨_, whole, last.skipSemicolon⟩
  | global type name =>
      obtain ⟨_, keyword, further⟩ := keyword?_laid laid
      obtain ⟨_, typed, last⟩ := typedName?_laid further
      exact ⟨_, (readDeclaration_of_global keyword).trans (readGlobal_eq_some_iff.mpr
        ⟨_, _, _, _, keyword, typed, rfl, rfl⟩), last.skipSemicolon⟩
  | directive word isDirective argument =>
      obtain ⟨_, keyword, further⟩ := keyword?_laid laid
      obtain ⟨chars, _, given, last⟩ := directiveArgument?_laid further
      have either : ∀ {text rest}, keyword? word text = some rest →
          keyword? .expanderWord text = some rest ∨ keyword? .dialectWord text = some rest := by
        rcases isDirective with rfl | rfl
        · exact .inl
        · exact .inr
      exact ⟨_, (readDeclaration_of_directive (either keyword)).trans
        (readDirective_eq_some_iff.mpr ⟨_, chars, _, either keyword, given, rfl, rfl⟩),
        last.skipSemicolon⟩
  | template name fields =>
      have same : (Declaration.template name fields).tokens ++ tokens =
          .keyword .templateWord :: name.elim .quoted .word ::
            (fields.flatMap Field.tokens ++ .keyword .endWord :: .semicolon :: tokens) := by
        simp [Declaration.tokens]
      rw [same] at laid
      obtain ⟨_, keyword, -⟩ := keyword?_laid laid
      obtain ⟨behind, reads, last⟩ := readTemplate_laid laid
      exact ⟨behind, (readDeclaration_of_template keyword).trans reads, last⟩

/-! ## Whole headers -/

namespace Declaration

/-- The statements of a declaration: itself, and what is left of it. -/
def statements (declaration : Declaration) : List Statement :=
  declaration.statement :: declaration.left.map fun _ => .empty

end Declaration

/-- What is left of a declaration is read as statements that declare nothing. -/
theorem outline_left {declaration : Declaration} {tokens : List Token}
    (laid : Lays (declaration.left ++ tokens) text) :
    ∃ located behind, located.map Located.statement = declaration.left.map (fun _ => .empty) ∧
      outline text = (located ++ (outline behind).1, (outline behind).2) ∧ Lays tokens behind := by
  cases declaration with
  | template name fields =>
      obtain ⟨behind, same, further⟩ := laid.exists_behind
      have empty : readStatement (skipGap text) = some (.empty, behind) := by
        rw [same]
        exact readStatement_semicolon _
      exact ⟨[_], behind, rfl, outline_of_statement empty, further⟩
  | _ => exact ⟨[], text, rfl, rfl, laid⟩

/-- **Declarations that are laid out are read one by one, to the end.** -/
theorem outline_laid {declarations : List Declaration}
    (laid : Lays (declarations.flatMap Declaration.tokens) text) :
    ∃ located, outline text = (located, []) ∧
      located.map Located.statement = declarations.flatMap Declaration.statements := by
  induction declarations generalizing text with
  | nil =>
      cases laid
      exact ⟨[], outline_nil, rfl⟩
  | cons declaration declarations ih =>
      rw [List.flatMap_cons] at laid
      obtain ⟨behind, found, further⟩ := readDeclaration_laid laid
      obtain ⟨remaining, later, empty, left, last⟩ := outline_left further
      obtain ⟨located, outlined, statements⟩ := ih last
      have whole := outline_of_statement (readStatement_of_declaration found)
      rw [left, outlined] at whole
      refine ⟨_, whole, ?_⟩
      rw [List.map_cons, List.map_append, empty, statements]
      rfl

theorem outline_gapped (declarations : List Declaration) (gaps : Nat → Gap) :
    ∃ located, outline (gapped gaps (declarations.flatMap Declaration.tokens)) = (located, []) ∧
      located.map Located.statement = declarations.flatMap Declaration.statements :=
  outline_laid (lays_gapped gaps _)

/-! ## What is declared -/

theorem filterMap_statements {α : Type} {ofStatement : Statement → Option α}
    {ofDeclaration : Declaration → Option α}
    (own : ∀ declaration, ofStatement declaration.statement = ofDeclaration declaration)
    (empty : ofStatement .empty = none) (declarations : List Declaration) :
    (declarations.flatMap Declaration.statements).filterMap ofStatement =
      declarations.filterMap ofDeclaration := by
  have each : ∀ declaration : Declaration, declaration.statements.filterMap ofStatement =
      (ofDeclaration declaration).toList := by
    intro declaration
    have nothing : (declaration.left.map fun _ => Statement.empty).filterMap ofStatement = [] := by
      rw [List.filterMap_map, List.filterMap_eq_nil_iff]
      exact fun _ _ => empty
    rw [Declaration.statements, ← own]
    cases found : ofStatement declaration.statement with
    | none => rw [List.filterMap_cons_none found, nothing]; rfl
    | some part => rw [List.filterMap_cons_some found, nothing]; rfl
  rw [List.filterMap_flatMap, funext each, List.filterMap_eq_flatMap_toList]

theorem ofStatements_statements (declarations : List Declaration) :
    Package.ofStatements (declarations.flatMap Declaration.statements) =
      Package.ofDeclarations declarations := by
  have names : ∀ declaration : Declaration,
      declaration.statement.packageName? = declaration.packageName? := by
    rintro (_ | _ | _ | _ | _ | _) <;> rfl
  have imports : ∀ declaration : Declaration,
      declaration.statement.typeImport? = declaration.typeImport? := by
    rintro (_ | _ | _ | _ | _ | _) <;> rfl
  have functions : ∀ declaration : Declaration,
      declaration.statement.functionImport? = declaration.functionImport? := by
    rintro (_ | _ | _ | _ | _ | _) <;> rfl
  have globals : ∀ declaration : Declaration,
      declaration.statement.global? = declaration.global? := by
    rintro (_ | _ | _ | _ | _ | _) <;> rfl
  have templates : ∀ declaration : Declaration,
      declaration.statement.template? = declaration.template? := by
    rintro (_ | _ | _ | _ | _ | _) <;> rfl
  rw [Package.ofStatements, filterMap_statements names rfl, filterMap_statements imports rfl,
    filterMap_statements functions rfl, filterMap_statements globals rfl,
    filterMap_statements templates rfl]
  rfl

theorem complaint?_statements (declarations : List Declaration) :
    ∀ statement ∈ declarations.flatMap Declaration.statements, statement.complaint? = none := by
  intro statement member
  obtain ⟨declaration, -, within⟩ := List.mem_flatMap.mp member
  rcases List.mem_cons.mp within with rfl | left
  · cases declaration <;> rfl
  · obtain ⟨_, -, rfl⟩ := List.mem_map.mp left
    rfl

/-- **A header that is laid out is read as it was written**: without problems, whatever stands in
the gaps between its tokens, and with exactly what its declarations declare. -/
theorem reading_of_layOut (declarations : List Declaration) (gaps : Nat → Gap) :
    Reading.ofText (String.ofList (layOut gaps (declarations.flatMap Declaration.tokens))) =
      .ok ⟨Package.ofDeclarations declarations, []⟩ := by
  obtain ⟨located, outlined, statements⟩ := outline_gapped declarations
    (fun n => Nat.casesOn n (gaps 0) gaps)
  rw [outline_congr (skipGap_layOut (gaps 0) gaps _).symm] at outlined
  have quiet : ∀ one ∈ located, one.statement.complaint? = none := by
    intro one member
    refine complaint?_statements declarations one.statement ?_
    rw [← statements]
    exact List.mem_map_of_mem member
  rw [Reading.ofText, String.toList_ofList, Reading.ofChars_eq_ok_iff]
  refine ⟨located, outlined, ?_⟩
  rw [statements, ofStatements_statements, problems_eq_nil_iff.mpr quiet]

/-- An import of all that is in something called `function`, as it is written. -/
example : String.ofList (layOut (fun _ => ⟨' ', rfl, []⟩)
    (Declaration.typeImport ⟨⟨'f', "unction".toList, rfl, List.all_eq_true.mp rfl⟩, [], true⟩).tokens) =
      "import function.* ;" := by
  decide +kernel

end RuleVocabulary.Header
