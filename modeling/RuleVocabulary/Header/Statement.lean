import RuleVocabulary.Header.Word

/-!
# The statements of a package header

A header is a sequence of statements. `readStatement` reads the one at the front of a text that
starts with no gap; the forms are tried in a fixed order, and what no other form accepts is an
unrecognized statement, read up to the end of its line, a semicolon or a block comment. Main
statements: every reading shortens the text (`length_readStatement_lt`), and `outline` cuts a
whole header into its statements together with what could not be read.
-/

set_option autoImplicit false

namespace RuleVocabulary.Header

/-- A named, typed field of a fact template. -/
structure TemplateField where
  name : String
  typeName : String
deriving DecidableEq, Repr

/-- A fact type that a header declares inline. -/
structure Template where
  name : String
  fields : List TemplateField
deriving DecidableEq, Repr

/-- What one statement of a header says. -/
inductive Statement where
  /-- The package gets a name. -/
  | package (name : String)
  /-- A type, or with a wildcard a whole package, is imported. -/
  | typeImport (target : String)
  /-- A function is imported. -/
  | functionImport (target : String)
  /-- A global variable is declared. -/
  | global (typeName identifier : String)
  /-- A fact template is declared; `closed` tells whether its `end` was there. -/
  | template (declared : Template) (closed : Bool)
  /-- A dialect or an expander is chosen, which a vocabulary has no use for. -/
  | directive
  /-- A semicolon on its own. -/
  | empty
  /-- Something else, with its text. -/
  | unrecognized (text : String)
deriving DecidableEq, Repr

/-! ## Single statements -/

/-- Reads `package NAME`. -/
def readPackage (text : List Char) : Option (Statement × List Char) :=
  match keyword? .packageWord text with
  | none => none
  | some behind =>
    match qualifiedName? (skipGap behind) with
    | none => none
    | some (name, rest) => some (.package (String.ofList name), skipSemicolon rest)

/-- Reads `import function NAME`. -/
def readFunctionImport (text : List Char) : Option (Statement × List Char) :=
  match keyword? .importWord text with
  | none => none
  | some behind =>
    match keyword? .functionWord (skipGap behind) with
    | none => none
    | some further =>
      match qualifiedName? (skipGap further) with
      | none => none
      | some (target, rest) => some (.functionImport (String.ofList target), skipSemicolon rest)

/-- Reads `import NAME`. -/
def readTypeImport (text : List Char) : Option (Statement × List Char) :=
  match keyword? .importWord text with
  | none => none
  | some behind =>
    match qualifiedName? (skipGap behind) with
    | none => none
    | some (target, rest) => some (.typeImport (String.ofList target), skipSemicolon rest)

/-- A type name, a gap and a word: how globals and template fields are declared. -/
def typedName? (text : List Char) : Option ((List Char × List Char) × List Char) :=
  match typeName? text with
  | none => none
  | some (typeName, behind) =>
    match word? (skipGap behind) with
    | none => none
    | some (name, rest) => some ((typeName, name), rest)

/-- Reads `global TYPE NAME`. -/
def readGlobal (text : List Char) : Option (Statement × List Char) :=
  match keyword? .globalWord text with
  | none => none
  | some behind =>
    match typedName? (skipGap behind) with
    | none => none
    | some ((typeName, name), rest) =>
      some (.global (String.ofList typeName) (String.ofList name), skipSemicolon rest)

/-- Reads one field of a template, unless the text starts with a reserved keyword. -/
def readField (text : List Char) : Option (TemplateField × List Char) :=
  if startsReserved text then none
  else
    match typedName? text with
    | none => none
    | some ((typeName, name), rest) =>
      some (⟨String.ofList name, String.ofList typeName⟩, skipSemicolon rest)

/-- The name of a template: quoted, or a word. -/
def templateName? (text : List Char) : Option (List Char × List Char) :=
  match quoted? text with
  | some found => some found
  | none => word? text

theorem length_typedName?_lt {text rest : List Char} {names : List Char × List Char}
    (found : typedName? text = some (names, rest)) : rest.length < text.length := by
  unfold typedName? at found
  split at found
  · simp at found
  · rename_i typeName behind typed
    split at found
    · simp at found
    · rename_i name last named
      obtain ⟨-, rfl⟩ := by simpa using found
      have := length_typeName?_lt typed
      have := length_word?_lt named
      have := length_skipGap_le behind
      omega

theorem length_readField_lt {text rest : List Char} {field : TemplateField}
    (found : readField text = some (field, rest)) : rest.length < text.length := by
  unfold readField at found
  split at found
  · simp at found
  · split at found
    · simp at found
    · rename_i typeName name last typed
      obtain ⟨-, rfl⟩ := by simpa using found
      have := length_typedName?_lt typed
      have := length_skipSemicolon_le last
      omega

/-- The fields at the front of a text, and what follows them and the gap behind them. -/
def readFields (text : List Char) : List TemplateField × List Char :=
  match found : readField (skipGap text) with
  | some (field, rest) =>
    have : rest.length < text.length :=
      Nat.lt_of_lt_of_le (length_readField_lt found) (length_skipGap_le text)
    let more := readFields rest
    (field :: more.1, more.2)
  | none => ([], skipGap text)
termination_by text.length

theorem length_readFields_le (text : List Char) : (readFields text).2.length ≤ text.length := by
  fun_induction readFields text with
  | case1 text field rest found shorter more ih =>
    have : more.2.length ≤ rest.length := ih
    simp
    omega
  | case2 text _ => exact length_skipGap_le text

/-- Reads a template. Its fields go on up to `end`, or, for a template that lacks it, up to the
next reserved keyword or the end of the text. -/
def readTemplate (text : List Char) : Option (Statement × List Char) :=
  match keyword? .templateWord text with
  | none => none
  | some behind =>
    match templateName? (skipGap behind) with
    | none => none
    | some (name, further) =>
      let body := readFields further
      let declared : Template := ⟨String.ofList name, body.1⟩
      match keyword? .endWord body.2 with
      | some rest => some (.template declared true, rest)
      | none =>
        if body.2.isEmpty || startsReserved body.2 then some (.template declared false, body.2)
        else none

/-- Reads `dialect` or `expander` with a quoted string or a name. -/
def readDirective (text : List Char) : Option (Statement × List Char) :=
  match (keyword? .expanderWord text).or (keyword? .dialectWord text) with
  | none => none
  | some behind =>
    match (quoted? (skipGap behind)).or (qualifiedName? (skipGap behind)) with
    | none => none
    | some (_, rest) => some (.directive, skipSemicolon rest)

/-- Reads a semicolon on its own. -/
def readEmpty : List Char → Option (Statement × List Char)
  | ';' :: rest => some (.empty, rest)
  | _ => none

/-- The text up to the end of the line, a semicolon or a block comment, and what follows. -/
def unrecognizedPart : List Char → List Char × List Char
  | [] => ([], [])
  | c :: rest =>
    if endsLine c || c = ';' || (c = '/' && rest.head? = some '*') then ([], c :: rest)
    else
      let more := unrecognizedPart rest
      (c :: more.1, more.2)

/-- Reads what no other form accepts, with a semicolon that closes it. -/
def readUnrecognized (text : List Char) : Option (Statement × List Char) :=
  match unrecognizedPart text with
  | ([], _) => none
  | (part, ';' :: rest) => some (.unrecognized (String.ofList part), rest)
  | (part, rest) => some (.unrecognized (String.ofList part), rest)

/-- Reads the statement at the front of a text: the first form that accepts it. -/
def readStatement (text : List Char) : Option (Statement × List Char) :=
  (readPackage text).or <| (readFunctionImport text).or <| (readTypeImport text).or <|
    (readGlobal text).or <| (readTemplate text).or <| (readDirective text).or <|
      (readEmpty text).or (readUnrecognized text)

/-! ## Every reading shortens the text -/

theorem length_readPackage_lt {text rest : List Char} {statement : Statement}
    (found : readPackage text = some (statement, rest)) : rest.length < text.length := by
  unfold readPackage at found
  split at found
  · simp at found
  · rename_i behind keyword
    split at found
    · simp at found
    · rename_i name last named
      obtain ⟨-, rfl⟩ := by simpa using found
      have := length_keyword?_lt keyword
      have := length_skipGap_le behind
      have := length_qualifiedName?_lt named
      have := length_skipSemicolon_le last
      omega

theorem length_readFunctionImport_lt {text rest : List Char} {statement : Statement}
    (found : readFunctionImport text = some (statement, rest)) : rest.length < text.length := by
  unfold readFunctionImport at found
  split at found
  · simp at found
  · rename_i behind keyword
    split at found
    · simp at found
    · rename_i further function
      split at found
      · simp at found
      · rename_i name last named
        obtain ⟨-, rfl⟩ := by simpa using found
        have := length_keyword?_lt keyword
        have := length_skipGap_le behind
        have := length_keyword?_lt function
        have := length_skipGap_le further
        have := length_qualifiedName?_lt named
        have := length_skipSemicolon_le last
        omega

theorem length_readTypeImport_lt {text rest : List Char} {statement : Statement}
    (found : readTypeImport text = some (statement, rest)) : rest.length < text.length := by
  unfold readTypeImport at found
  split at found
  · simp at found
  · rename_i behind keyword
    split at found
    · simp at found
    · rename_i name last named
      obtain ⟨-, rfl⟩ := by simpa using found
      have := length_keyword?_lt keyword
      have := length_skipGap_le behind
      have := length_qualifiedName?_lt named
      have := length_skipSemicolon_le last
      omega

theorem length_readGlobal_lt {text rest : List Char} {statement : Statement}
    (found : readGlobal text = some (statement, rest)) : rest.length < text.length := by
  unfold readGlobal at found
  split at found
  · simp at found
  · rename_i behind keyword
    split at found
    · simp at found
    · rename_i typeName name last typed
      obtain ⟨-, rfl⟩ := by simpa using found
      have := length_keyword?_lt keyword
      have := length_skipGap_le behind
      have := length_typedName?_lt typed
      have := length_skipSemicolon_le last
      omega

theorem length_templateName?_lt {text name rest : List Char}
    (found : templateName? text = some (name, rest)) : rest.length < text.length := by
  unfold templateName? at found
  split at found
  · rename_i pair inside
    obtain rfl := by simpa using found
    exact length_quoted?_lt inside
  · exact length_word?_lt found

theorem length_readTemplate_lt {text rest : List Char} {statement : Statement}
    (found : readTemplate text = some (statement, rest)) : rest.length < text.length := by
  unfold readTemplate at found
  split at found
  · simp at found
  · rename_i behind keyword
    split at found
    · simp at found
    · rename_i name further named
      have := length_keyword?_lt keyword
      have := length_skipGap_le behind
      have := length_templateName?_lt named
      have := length_readFields_le further
      simp only at found
      split at found
      · rename_i last ended
        obtain ⟨-, rfl⟩ := by simpa using found
        have := length_keyword?_lt ended
        omega
      · split at found
        · obtain ⟨-, rfl⟩ := by simpa using found
          omega
        · simp at found

theorem length_readDirective_lt {text rest : List Char} {statement : Statement}
    (found : readDirective text = some (statement, rest)) : rest.length < text.length := by
  unfold readDirective at found
  split at found
  · simp at found
  · rename_i behind keyword
    split at found
    · simp at found
    · rename_i argument last named
      obtain ⟨-, rfl⟩ := by simpa using found
      have : behind.length < text.length := by
        rcases Option.or_eq_some_iff.mp keyword with word | ⟨-, word⟩ <;>
          exact length_keyword?_lt word
      have := length_skipGap_le behind
      have : last.length < (skipGap behind).length := by
        rcases Option.or_eq_some_iff.mp named with inside | ⟨-, name⟩
        · exact length_quoted?_lt inside
        · exact length_qualifiedName?_lt name
      have := length_skipSemicolon_le last
      omega

theorem length_readEmpty_lt {text rest : List Char} {statement : Statement}
    (found : readEmpty text = some (statement, rest)) : rest.length < text.length := by
  unfold readEmpty at found
  split at found
  · obtain ⟨-, rfl⟩ := by simpa using found
    simp
  · simp at found

/-- The part and what follows it make up the text. -/
theorem unrecognizedPart_append (text : List Char) :
    (unrecognizedPart text).1 ++ (unrecognizedPart text).2 = text := by
  fun_induction unrecognizedPart text with
  | case1 => rfl
  | case2 => rfl
  | case3 c rest _ more ih =>
    have : more.1 ++ more.2 = rest := ih
    simp [this]

theorem length_readUnrecognized_lt {text rest : List Char} {statement : Statement}
    (found : readUnrecognized text = some (statement, rest)) : rest.length < text.length := by
  have whole := congrArg List.length (unrecognizedPart_append text)
  rw [List.length_append] at whole
  unfold readUnrecognized at found
  split at found
  · simp at found
  · rename_i part last notEmpty cut
    obtain ⟨-, rfl⟩ := by simpa using found
    rw [cut] at whole
    simp at whole
    omega
  · rename_i part last notEmpty _ cut
    obtain ⟨-, rfl⟩ := by simpa using found
    rw [cut] at whole
    have := List.length_pos_iff.mpr notEmpty
    simp at whole
    omega

/-- Every reading shortens the text. -/
theorem length_readStatement_lt {text rest : List Char} {statement : Statement}
    (found : readStatement text = some (statement, rest)) : rest.length < text.length := by
  unfold readStatement at found
  rcases Option.or_eq_some_iff.mp found with found | ⟨-, found⟩
  · exact length_readPackage_lt found
  rcases Option.or_eq_some_iff.mp found with found | ⟨-, found⟩
  · exact length_readFunctionImport_lt found
  rcases Option.or_eq_some_iff.mp found with found | ⟨-, found⟩
  · exact length_readTypeImport_lt found
  rcases Option.or_eq_some_iff.mp found with found | ⟨-, found⟩
  · exact length_readGlobal_lt found
  rcases Option.or_eq_some_iff.mp found with found | ⟨-, found⟩
  · exact length_readTemplate_lt found
  rcases Option.or_eq_some_iff.mp found with found | ⟨-, found⟩
  · exact length_readDirective_lt found
  rcases Option.or_eq_some_iff.mp found with found | ⟨-, found⟩
  · exact length_readEmpty_lt found
  · exact length_readUnrecognized_lt found

/-! ## Whole headers -/

/-- A statement together with the text it begins. -/
structure Located where
  start : List Char
  statement : Statement
deriving DecidableEq, Repr

/-- The statements of a header in order, and what is left where no statement could be read. -/
def outline (text : List Char) : List Located × List Char :=
  match found : readStatement (skipGap text) with
  | some (statement, rest) =>
    have : rest.length < text.length :=
      Nat.lt_of_lt_of_le (length_readStatement_lt found) (length_skipGap_le text)
    let more := outline rest
    (⟨skipGap text, statement⟩ :: more.1, more.2)
  | none => ([], skipGap text)
termination_by text.length

end RuleVocabulary.Header
