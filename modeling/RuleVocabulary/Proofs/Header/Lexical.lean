import RuleVocabulary.Proofs.Header.ReadBack

/-!
# What is read is well formed

Whatever a text holds, the readers of tokens find nothing in it but words, names, types and quoted
strings (`exists_word` and its kin). A field of a template is read only where no reserved keyword
stands, so its type does not begin with one (`exists_field`).

It follows that each statement declares what a declaration does that can be written, or nothing at
all, even if it is a template without its `end` or a fragment of something else
(`exists_declarations_of_readStatement`). Main statement: so does a whole header, hence all names
of a package that has been read are well formed (`lexical_of_reading`).
-/

set_option autoImplicit false

namespace RuleVocabulary.Header

variable {text rest chars : List Char}

/-! ## Tokens -/

theorem exists_word (found : word? text = some (chars, rest)) :
    ∃ word : Word, word.chars = chars ∧ text.takeWhile isWordPart = chars := by
  cases text with
  | nil => cases found
  | cons c behind =>
      rw [word?] at found
      split at found
      · rename_i starts
        cases found
        exact ⟨⟨c, _, starts, fun d member => List.mem_takeWhile_imp member⟩, rfl,
          List.takeWhile_cons_of_pos (isWordPart_of_isWordStart starts)⟩
      · cases found

theorem exists_dotted (text : List Char) :
    ∃ words : List Word, Word.dotted words = (dottedWords text).1 := by
  fun_induction dottedWords text with
  | case1 behind chars rest found _ more ih =>
      obtain ⟨word, rfl, -⟩ := exists_word found
      obtain ⟨words, same⟩ := ih
      exact ⟨word :: words, by rw [← same]; rfl⟩
  | case2 => exact ⟨[], rfl⟩
  | case3 => exact ⟨[], rfl⟩

theorem exists_wildcard (text : List Char) :
    ∃ isWildcard : Bool, (if isWildcard then ['.', '*'] else []) = (wildcard text).1 := by
  fun_cases wildcard text with
  | case1 => exact ⟨true, rfl⟩
  | case2 => exact ⟨false, rfl⟩

theorem exists_qualifiedName (found : qualifiedName? text = some (chars, rest)) :
    ∃ name : QualifiedName, name.chars = chars := by
  rw [qualifiedName?_eq, Option.map_eq_some_iff] at found
  obtain ⟨⟨first, behind⟩, word, same⟩ := found
  obtain ⟨first, rfl, -⟩ := exists_word word
  obtain ⟨more, dotted⟩ := exists_dotted behind
  obtain ⟨isWildcard, last⟩ := exists_wildcard (dottedWords behind).2
  refine ⟨⟨first, more, isWildcard⟩, ?_⟩
  rw [QualifiedName.chars, QualifiedName.others, dotted, last, ← List.append_assoc]
  exact (Prod.mk.inj same).1

theorem exists_dimensions (text : List Char) :
    ∃ dimensions, (List.replicate dimensions ['[', ']']).flatten = (brackets text).1 := by
  fun_induction brackets text with
  | case1 behind more ih =>
      obtain ⟨dimensions, same⟩ := ih
      exact ⟨dimensions + 1, by rw [List.replicate_succ, List.flatten_cons, same]; rfl⟩
  | case2 => exact ⟨0, rfl⟩

/-- The first word of a type is all that a keyword could be taken from. -/
theorem exists_typeName (found : typeName? text = some (chars, rest)) :
    ∃ type : TypeName, type.chars = chars ∧ text.takeWhile isWordPart = type.first.chars := by
  rw [typeName?_eq, Option.map_eq_some_iff] at found
  obtain ⟨⟨first, behind⟩, word, same⟩ := found
  obtain ⟨first, rfl, front⟩ := exists_word word
  obtain ⟨more, dotted⟩ := exists_dotted behind
  obtain ⟨dimensions, last⟩ := exists_dimensions (dottedWords behind).2
  refine ⟨⟨first, more, dimensions⟩, ?_, front⟩
  rw [TypeName.chars, TypeName.others, dotted, last, ← List.append_assoc]
  exact (Prod.mk.inj same).1

theorem exists_typedName {typeName name : List Char}
    (found : typedName? text = some ((typeName, name), rest)) :
    ∃ (type : TypeName) (word : Word), type.chars = typeName ∧ word.chars = name ∧
      text.takeWhile isWordPart = type.first.chars := by
  obtain ⟨behind, typed, named⟩ := typedName?_eq_some_iff.mp found
  obtain ⟨type, same, front⟩ := exists_typeName typed
  obtain ⟨word, same', -⟩ := exists_word named
  exact ⟨type, word, same, same', front⟩

theorem exists_quotedText (found : quoted? text = some (chars, rest)) :
    ∃ quoted : QuotedText, quoted.inside = chars := by
  unfold quoted? at found
  split at found
  · split at found
    · cases found
      exact ⟨⟨_, fun c member => List.mem_takeWhile_imp member⟩, rfl⟩
    · cases found
  · cases found

theorem isQuotable_of_isWordPart {c : Char} (part : isWordPart c = true) : isQuotable c = true := by
  by_contra unquotable
  simp only [isQuotable, endsLine, Bool.not_eq_true, Bool.not_eq_false', Bool.or_eq_true,
    decide_eq_true_eq] at unquotable
  rcases unquotable with rfl | rfl | rfl <;> cases part

theorem exists_templateName (found : templateName? text = some (chars, rest)) :
    ∃ name : QuotedText ⊕ Word, name.elim QuotedText.inside Word.chars = chars := by
  rw [templateName?_eq] at found
  rcases Option.or_eq_some_iff.mp found with inside | ⟨-, named⟩
  · obtain ⟨quoted, rfl⟩ := exists_quotedText inside
    exact ⟨.inl quoted, rfl⟩
  · obtain ⟨word, rfl, -⟩ := exists_word named
    exact ⟨.inr word, rfl⟩

theorem exists_argument (found : directiveArgument? text = some (chars, rest)) :
    ∃ argument : QuotedText ⊕ QualifiedName,
      argument.elim QuotedText.inside QualifiedName.chars = chars := by
  rcases Option.or_eq_some_iff.mp found with inside | ⟨-, named⟩
  · obtain ⟨quoted, rfl⟩ := exists_quotedText inside
    exact ⟨.inl quoted, rfl⟩
  · obtain ⟨name, rfl⟩ := exists_qualifiedName named
    exact ⟨.inr name, rfl⟩

/-! ## Fields -/

theorem exists_field {field : TemplateField} (found : readField text = some (field, rest)) :
    ∃ written : Field, written.declared = field := by
  obtain ⟨unreserved, _, _, _, typed, rfl, -⟩ := readField_eq_some_iff.mp found
  obtain ⟨type, name, rfl, rfl, front⟩ := exists_typedName typed
  have free : ∀ keyword ∈ Keyword.reserved, type.first.chars ≠ keyword.spelling := by
    intro keyword reserved same
    have stands := keyword?_eq_some_iff.mpr ⟨front.trans same, rfl⟩
    rw [startsReserved_of_keyword? reserved stands] at unreserved
    cases unreserved
  exact ⟨⟨type, name, free⟩, rfl⟩

theorem exists_fields (text : List Char) :
    ∃ fields : List Field, fields.map Field.declared = (readFields text).1 := by
  fun_induction readFields text with
  | case1 text field rest found _ more ih =>
      obtain ⟨written, rfl⟩ := exists_field found
      obtain ⟨fields, same⟩ := ih
      exact ⟨written :: fields, by rw [List.map_cons, same]⟩
  | case2 => exact ⟨[], rfl⟩

/-! ## Statements -/

theorem Package.ofDeclarations_append (first second : List Declaration) :
    Package.ofDeclarations (first ++ second) =
      (Package.ofDeclarations first).followedBy (Package.ofDeclarations second) := by
  simp [Package.ofDeclarations, Package.followedBy, List.filterMap_append, List.getLast?_append]

variable {statement : Statement}

/-- **What is read as a declaration declares what one does that can be written.** A template that
lacks its `end` declares what it would with it. -/
theorem exists_declaration (found : readDeclaration text = some (statement, rest)) :
    ∃ declaration : Declaration,
      Package.ofStatements [statement] = Package.ofDeclarations [declaration] := by
  rcases readDeclaration_cases found with
    package | function | ⟨-, type⟩ | global | template | directive
  · obtain ⟨_, _, _, -, named, rfl, -⟩ := readPackage_eq_some_iff.mp package
    obtain ⟨name, rfl⟩ := exists_qualifiedName named
    exact ⟨.package name, rfl⟩
  · obtain ⟨_, _, _, _, -, -, named, rfl, -⟩ := readFunctionImport_eq_some_iff.mp function
    obtain ⟨target, rfl⟩ := exists_qualifiedName named
    exact ⟨.functionImport target, rfl⟩
  · obtain ⟨_, _, _, -, named, rfl, -⟩ := readTypeImport_eq_some_iff.mp type
    obtain ⟨target, rfl⟩ := exists_qualifiedName named
    exact ⟨.typeImport target, rfl⟩
  · obtain ⟨_, _, _, _, -, typed, rfl, -⟩ := readGlobal_eq_some_iff.mp global
    obtain ⟨type, name, rfl, rfl, -⟩ := exists_typedName typed
    exact ⟨.global type name, rfl⟩
  · obtain ⟨_, _, further, -, named, closed⟩ := readTemplate_eq_some_iff.mp template
    obtain ⟨name, rfl⟩ := exists_templateName named
    obtain ⟨fields, same⟩ := exists_fields further
    have text : name.elim QuotedText.text Word.text =
        String.ofList (name.elim QuotedText.inside Word.chars) := by cases name <;> rfl
    refine ⟨.template name fields, ?_⟩
    have declares : Package.ofDeclarations [.template name fields] = ⟨none, [], [], [],
        [⟨name.elim QuotedText.text Word.text, fields.map Field.declared⟩]⟩ := rfl
    rw [declares, same, text]
    rcases closed with ⟨-, rfl⟩ | ⟨-, -, rfl, -⟩ <;> rfl
  · obtain ⟨_, _, _, keyword, given, rfl, -⟩ := readDirective_eq_some_iff.mp directive
    obtain ⟨argument, -⟩ := exists_argument given
    rcases keyword with _ | _
    · exact ⟨.directive .expanderWord (.inl rfl) argument, rfl⟩
    · exact ⟨.directive .dialectWord (.inr rfl) argument, rfl⟩

theorem exists_declarations_of_readStatement (found : readStatement text = some (statement, rest)) :
    ∃ declarations, Package.ofStatements [statement] = Package.ofDeclarations declarations := by
  rcases readStatement_cases found with declared | ⟨-, rfl⟩ | unread
  · obtain ⟨declaration, same⟩ := exists_declaration declared
    exact ⟨[declaration], same⟩
  · exact ⟨[], rfl⟩
  · obtain ⟨-, rfl, -⟩ := readUnrecognized_eq_some_iff.mp unread
    exact ⟨[], rfl⟩

/-- The statements of any header declare what some declarations do that can be written. -/
theorem exists_declarations_of_outline (text : List Char) :
    ∃ declarations, Package.ofStatements ((outline text).1.map Located.statement) =
      Package.ofDeclarations declarations := by
  fun_induction outline text with
  | case1 text statement rest found _ more ih =>
      obtain ⟨here, same⟩ := exists_declarations_of_readStatement found
      obtain ⟨later, same'⟩ := ih
      refine ⟨here ++ later, ?_⟩
      rw [List.map_cons, ← List.singleton_append, Package.ofStatements_append,
        Package.ofDeclarations_append, same, same']
  | case2 => exact ⟨[], rfl⟩

/-! ## Packages -/

/-- A package all of whose names are well formed: what is imported and the package itself are
called by dotted names, types are dotted names with brackets, variables are words, the name of a
template can stand between quotes, and the type of a field does not begin with a reserved
keyword. -/
structure Package.Lexical (package : Package) : Prop where
  name : ∀ name ∈ package.name, ∃ written : QualifiedName, written.text = name
  imports : ∀ target ∈ package.imports, ∃ written : QualifiedName, written.text = target
  functionImports : ∀ target ∈ package.functionImports,
    ∃ written : QualifiedName, written.text = target
  globals : ∀ global ∈ package.globals, ∃ (type : TypeName) (name : Word),
    (⟨name.text, type.text⟩ : Global) = global
  templates : ∀ template ∈ package.templates, ∃ (name : QuotedText) (fields : List Field),
    (⟨name.text, fields.map Field.declared⟩ : Template) = template

/-- Every word can be quoted. -/
theorem Word.exists_quotedText (word : Word) :
    ∃ quoted : QuotedText, quoted.text = word.text :=
  ⟨⟨word.chars, fun c member => isQuotable_of_isWordPart (word.isWordPart_of_mem c member)⟩, rfl⟩

theorem lexical_ofDeclarations (declarations : List Declaration) :
    (Package.ofDeclarations declarations).Lexical where
  name name last := by
    obtain ⟨declaration, -, names⟩ := List.mem_filterMap.mp (List.mem_of_getLast? last)
    cases declaration <;> cases names
    exact ⟨_, rfl⟩
  imports target member := by
    obtain ⟨declaration, -, imports⟩ := List.mem_filterMap.mp member
    cases declaration <;> cases imports
    exact ⟨_, rfl⟩
  functionImports target member := by
    obtain ⟨declaration, -, imports⟩ := List.mem_filterMap.mp member
    cases declaration <;> cases imports
    exact ⟨_, rfl⟩
  globals global member := by
    obtain ⟨declaration, -, declares⟩ := List.mem_filterMap.mp member
    cases declaration <;> cases declares
    exact ⟨_, _, rfl⟩
  templates template member := by
    obtain ⟨declaration, -, declares⟩ := List.mem_filterMap.mp member
    cases declaration <;> cases declares
    rename_i name fields
    have quotable : ∃ quoted : QuotedText,
        quoted.text = name.elim QuotedText.text Word.text := by
      cases name with
      | inl quoted => exact ⟨quoted, rfl⟩
      | inr word => exact word.exists_quotedText
    obtain ⟨quoted, same⟩ := quotable
    exact ⟨quoted, fields, by rw [same]⟩

/-- **All names of a package that has been read are well formed**, whatever the header was. -/
theorem lexical_of_reading {header : String} {reading : Reading}
    (read : Reading.ofText header = .ok reading) : reading.package.Lexical := by
  obtain ⟨statements, outlined, rfl⟩ := Reading.ofChars_eq_ok_iff.mp read
  obtain ⟨declarations, same⟩ := exists_declarations_of_outline header.toList
  rw [outlined] at same
  exact same ▸ lexical_ofDeclarations declarations

end RuleVocabulary.Header
