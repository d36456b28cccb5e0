import RuleVocabulary.Proofs.Header.Tail

/-!
# Declarations that break off

A declaration may go on over any number of lines, and its last token may be the first word of the
next statement, keywords included. So a text in which no declaration can be read may become one
when more lines follow: it breaks off behind a keyword, behind the type of a global, or behind the
type of a field in a template (`Unfinished`). A field alone is guarded: its type cannot be a
reserved keyword. But its name can, and so can every name that follows a keyword.

Main statements: a text that does not break off like this is no declaration whatever lines follow
(`readDeclaration_eq_none_append`), and one that does is a declaration before the next line
`import end`, for both words are taken as names (`readDeclaration_ne_none_of_unfinished`).
-/

set_option autoImplicit false

namespace RuleVocabulary.Header

variable {text rest tail : List Char}

/-- A type with nothing but a gap behind it. -/
def EndsInType (text : List Char) : Prop :=
  ∃ type rest, typeName? text = some (type, rest) ∧ skipGap rest = []

/-- A declaration that breaks off before one of its names. -/
inductive Unfinished (text : List Char) : Prop where
  /-- Behind the keyword that starts it. -/
  | keyword {keyword : Keyword} {rest : List Char} (starts : keyword ∈ statementKeywords)
      (found : keyword? keyword text = some rest) (gap : skipGap rest = [])
  /-- Behind the type of a global. -/
  | global {rest : List Char} (found : keyword? .globalWord text = some rest)
      (nameless : EndsInType (skipGap rest))
  /-- Behind the type of a field. -/
  | field {rest name behind : List Char} (found : keyword? .templateWord text = some rest)
      (named : templateName? (skipGap rest) = some (name, behind))
      (free : startsReserved (readFields behind).2 = false)
      (nameless : EndsInType (readFields behind).2)

/-! ## What no tail completes -/

/-- A text of which no ending begins with a comment left open. -/
def NeverOpens (text : List Char) : Prop :=
  ∀ ending, ending <:+ text → ¬ OpensComment ending

theorem NeverOpens.readable (never : NeverOpens text) (ending : rest <:+ text)
    (nonempty : rest ≠ []) : Readable rest :=
  ⟨nonempty, never rest ending⟩

theorem NeverOpens.of_suffix (never : NeverOpens text) (ending : rest <:+ text) :
    NeverOpens rest :=
  fun behind within => never behind (within.trans ending)

/-- What cannot be read behind a gap cannot be read there before a tail. -/
theorem ReadsToken.eq_none_behind_gap {α : Type} {read : List Char → Option (α × List Char)}
    (reads : ReadsToken read) (breaks : BreaksLine tail) (never : NeverOpens text)
    (more : skipGap text ≠ []) (missing : read (skipGap text) = none) :
    read (skipGap (text ++ tail)) = none := by
  rw [reads.behind_gap breaks (never.readable (skipGap_suffix text) more), missing]
  rfl

theorem typedName?_eq_none_append (breaks : BreaksLine tail) (never : NeverOpens text)
    (named : ¬ EndsInType text) (missing : typedName? text = none) :
    typedName? (text ++ tail) = none := by
  cases typed : typeName? text with
  | none =>
      have longer : typeName? (text ++ tail) = none := by
        rw [readsToken_typeName.append breaks, typed]
        rfl
      rw [typedName?, longer]
  | some found =>
      obtain ⟨type, rest⟩ := found
      have longer : typeName? (text ++ tail) = some (type, rest ++ tail) := by
        rw [readsToken_typeName.append breaks, typed]
        rfl
      have more : skipGap rest ≠ [] := fun gap => named ⟨type, rest, typed, gap⟩
      have noName : word? (skipGap rest) = none := by
        by_contra found
        obtain ⟨⟨name, last⟩, found⟩ := Option.ne_none_iff_exists'.mp found
        rw [typedName?_eq_some_iff.mpr ⟨rest, typed, found⟩] at missing
        cases missing
      have noName' := readsToken_word.eq_none_behind_gap breaks
        (never.of_suffix (typeName?_suffix typed)) more noName
      simp only [typedName?, longer, noName']

/-- Fields end where no field can be read, behind a gap. -/
theorem readField_readFields (text : List Char) :
    readField (readFields text).2 = none ∧ skipGap (readFields text).2 = (readFields text).2 := by
  fun_induction readFields text with
  | case1 text field rest found _ more ih => exact ih
  | case2 text missing => exact ⟨missing, skipGap_skipGap text⟩

/-- Fields that end neither at a reserved keyword nor behind a type end there before a tail as
well. -/
theorem readFields_append_of_named (breaks : BreaksLine tail) (never : NeverOpens text)
    (nonempty : (readFields text).2 ≠ []) (free : startsReserved (readFields text).2 = false)
    (named : ¬ EndsInType (readFields text).2) :
    (readFields (text ++ tail)).2 = (readFields text).2 ++ tail := by
  have inner := readFields_suffix text
  have readable := never.readable inner nonempty
  obtain ⟨noField, solid⟩ := readField_readFields text
  have untyped : typedName? (readFields text).2 = none := by
    by_contra typed
    obtain ⟨⟨⟨type, name⟩, last⟩, typed⟩ := Option.ne_none_iff_exists'.mp typed
    rw [readField_eq_some_iff.mpr ⟨free, type, name, last, typed, rfl, rfl⟩] at noField
    cases noField
  have untyped' := typedName?_eq_none_append breaks (never.of_suffix inner) named untyped
  have solid' := skipGap_append_of_solid breaks solid readable
  have noField' : readField (skipGap ((readFields text).2 ++ tail)) = none := by
    rw [solid', readField, untyped']
    simp
  rw [readFields_append breaks text (.append breaks text) readable, readFields_of_none noField',
    solid']

theorem readTemplate_eq_none_append (breaks : BreaksLine tail) (never : NeverOpens text)
    {behind : List Char} (found : keyword? .templateWord text = some behind)
    (finished : ¬ Unfinished text) (missing : readTemplate text = none) :
    readTemplate (text ++ tail) = none := by
  have within := keyword?_suffix found
  have longer := keyword?_found_append breaks found
  have more : skipGap behind ≠ [] := fun gap => finished (.keyword (by decide) found gap)
  cases named : templateName? (skipGap behind) with
  | none =>
      have noName := readsToken_templateName.eq_none_behind_gap breaks (never.of_suffix within) more
        named
      simp only [readTemplate, longer, noName]
  | some name =>
      obtain ⟨name, further⟩ := name
      have inner : further <:+ text :=
        ((templateName?_suffix named).trans (skipGap_suffix behind)).trans within
      obtain ⟨nonempty, free⟩ := (readTemplate_eq_none_iff found named).mp missing
      have nameless : ¬ EndsInType (readFields further).2 := fun endsInType =>
        finished (.field found named free endsInType)
      have named' := readsToken_templateName.found_behind_gap breaks named
      rw [readTemplate_eq_none_iff longer named',
        readFields_append_of_named breaks (never.of_suffix inner) nonempty free nameless,
        startsReserved_append breaks.startsBlank]
      exact ⟨by simp [nonempty], free⟩

theorem readDirective_eq_none_append (breaks : BreaksLine tail) {behind : List Char}
    (never : NeverOpens behind)
    (found : keyword? .expanderWord text = some behind ∨ keyword? .dialectWord text = some behind)
    (more : skipGap behind ≠ []) (missing : readDeclaration text = none) :
    readDeclaration (text ++ tail) = none := by
  have longer := found.imp (keyword?_found_append breaks) (keyword?_found_append breaks)
  rw [readDeclaration_of_directive found, readDirective_eq_none_iff found] at missing
  rw [readDeclaration_of_directive longer, readDirective_eq_none_iff longer]
  exact readsToken_directiveArgument.eq_none_behind_gap breaks never more missing

theorem readImport_eq_none_of_nameless {behind : List Char}
    (found : keyword? .importWord text = some behind)
    (nameless : qualifiedName? (skipGap behind) = none) :
    (readFunctionImport text).or (readTypeImport text) = none := by
  have noFunction : keyword? .functionWord (skipGap behind) = none := by
    by_contra function
    obtain ⟨further, function⟩ := Option.ne_none_iff_exists'.mp function
    rw [qualifiedName?_eq_none_iff, word?_of_keyword? function] at nameless
    cases nameless
  rw [(readTypeImport_eq_none_iff found).mpr nameless, Option.or_none, readFunctionImport, found]
  simp only [noFunction]

/-- **A text in which no declaration can be read and none breaks off is no declaration before a
tail.** -/
theorem readDeclaration_eq_none_append (breaks : BreaksLine tail) (never : NeverOpens text)
    (finished : ¬ Unfinished text) (missing : readDeclaration text = none) :
    readDeclaration (text ++ tail) = none := by
  by_cases keywords : ∃ keyword ∈ statementKeywords, ∃ behind, keyword? keyword text = some behind
  · obtain ⟨keyword, starts, behind, found⟩ := keywords
    have within := keyword?_suffix found
    have never' := never.of_suffix within
    have more : skipGap behind ≠ [] := fun gap => finished (.keyword starts found gap)
    have longer := keyword?_found_append breaks found
    cases keyword with
    | packageWord =>
        rw [readDeclaration_of_package found, readPackage_eq_none_iff found] at missing
        rw [readDeclaration_of_package longer, readPackage_eq_none_iff longer]
        exact readsToken_qualifiedName.eq_none_behind_gap breaks never' more missing
    | importWord =>
        rw [readDeclaration_of_import found, Option.or_eq_none_iff,
          readTypeImport_eq_none_iff found] at missing
        rw [readDeclaration_of_import longer]
        exact readImport_eq_none_of_nameless longer
          (readsToken_qualifiedName.eq_none_behind_gap breaks never' more missing.2)
    | globalWord =>
        rw [readDeclaration_of_global found, readGlobal_eq_none_iff found] at missing
        rw [readDeclaration_of_global longer, readGlobal_eq_none_iff longer,
          (skipGap_append breaks behind).2 (never'.readable (skipGap_suffix behind) more)]
        exact typedName?_eq_none_append breaks (never'.of_suffix (skipGap_suffix behind))
          (fun nameless => finished (.global found nameless)) missing
    | templateWord =>
        rw [readDeclaration_of_template found] at missing
        rw [readDeclaration_of_template longer]
        exact readTemplate_eq_none_append breaks never found finished missing
    | expanderWord => exact readDirective_eq_none_append breaks never' (.inl found) more missing
    | dialectWord => exact readDirective_eq_none_append breaks never' (.inr found) more missing
    | functionWord => exact absurd starts (by decide)
    | endWord => exact absurd starts (by decide)
  · refine readDeclaration_of_no_keyword fun keyword starts => ?_
    rw [keyword?_append breaks.startsBlank, Option.map_eq_none_iff]
    by_contra found
    exact keywords ⟨keyword, starts, Option.ne_none_iff_exists'.mp found⟩

/-! ## What the next line completes -/

/-- A line that completes every declaration that breaks off: both of its words are names. -/
def namesLine : List Char :=
  "\nimport end".toList

theorem breaksLine_namesLine : BreaksLine namesLine :=
  ⟨'\n', "import end".toList, rfl, rfl⟩

theorem word?_namesLine : word? (skipGap namesLine) = some ("import".toList, " end".toList) :=
  rfl

theorem skipGap_append_namesLine (gap : skipGap text = []) :
    skipGap (text ++ namesLine) = skipGap namesLine :=
  (skipGap_append breaksLine_namesLine text).1 gap

theorem typedName?_of_endsInType (nameless : EndsInType text) :
    ∃ type, typedName? (text ++ namesLine) = some ((type, "import".toList), " end".toList) := by
  obtain ⟨type, rest, typed, gap⟩ := nameless
  refine ⟨type, typedName?_eq_some_iff.mpr ⟨rest ++ namesLine, ?_, ?_⟩⟩
  · rw [readsToken_typeName.append breaksLine_namesLine, typed]
    rfl
  · rw [skipGap_append_namesLine gap, word?_namesLine]

/-- The second word of the line closes a template. -/
theorem readFields_end : readFields " end".toList = ([], "end".toList) :=
  readFields_of_none (readField_of_reserved (by decide +kernel))

theorem readTemplate_of_unfinished {behind name further : List Char}
    (found : keyword? .templateWord text = some behind)
    (named : templateName? (skipGap behind) = some (name, further))
    (ends : (readFields further).2 = "end".toList) : readTemplate text ≠ none := by
  rw [Ne, readTemplate_eq_none_iff found named, ends]
  decide +kernel

/-- A keyword alone takes the next word for its name. -/
theorem readDeclaration_of_keyword {keyword : Keyword} {behind : List Char}
    (starts : keyword ∈ statementKeywords) (found : keyword? keyword text = some behind)
    (gap : skipGap behind = []) : readDeclaration (text ++ namesLine) ≠ none := by
  have longer := keyword?_found_append breaksLine_namesLine found
  have next := skipGap_append_namesLine gap
  have named : qualifiedName? (skipGap (behind ++ namesLine)) ≠ none := by
    rw [next, Ne, qualifiedName?_eq_none_iff, word?_namesLine]
    exact Option.some_ne_none _
  have argument : directiveArgument? (skipGap (behind ++ namesLine)) ≠ none := by
    rw [next]
    decide +kernel
  cases keyword with
  | packageWord => rwa [readDeclaration_of_package longer, Ne, readPackage_eq_none_iff longer]
  | importWord =>
      rw [readDeclaration_of_import longer, Ne, Option.or_eq_none_iff,
        readTypeImport_eq_none_iff longer]
      exact fun missing => named missing.2
  | globalWord =>
      rw [readDeclaration_of_global longer, Ne, readGlobal_eq_none_iff longer, next]
      decide +kernel
  | templateWord =>
      have name : templateName? (skipGap (behind ++ namesLine)) =
          some ("import".toList, " end".toList) := by
        rw [next]
        rfl
      rw [readDeclaration_of_template longer]
      exact readTemplate_of_unfinished longer name (by rw [readFields_end])
  | expanderWord =>
      rwa [readDeclaration_of_directive (.inl longer), Ne, readDirective_eq_none_iff (.inl longer)]
  | dialectWord =>
      rwa [readDeclaration_of_directive (.inr longer), Ne, readDirective_eq_none_iff (.inr longer)]
  | functionWord => exact absurd starts (by decide)
  | endWord => exact absurd starts (by decide)

/-- A global without its name takes the next word for it. -/
theorem readDeclaration_of_global_type {behind : List Char}
    (found : keyword? .globalWord text = some behind) (nameless : EndsInType (skipGap behind)) :
    readDeclaration (text ++ namesLine) ≠ none := by
  have longer := keyword?_found_append breaksLine_namesLine found
  obtain ⟨type, typed⟩ := typedName?_of_endsInType nameless
  obtain ⟨_, _, reads, -⟩ := nameless
  rw [readDeclaration_of_global longer, Ne, readGlobal_eq_none_iff longer,
    (skipGap_append breaksLine_namesLine behind).2 (readsToken_typeName.readable reads), typed]
  exact Option.some_ne_none _

/-- A field without its name takes the next word for it, and the one behind that closes the
template. -/
theorem readDeclaration_of_field_type {behind name further : List Char}
    (found : keyword? .templateWord text = some behind)
    (named : templateName? (skipGap behind) = some (name, further))
    (free : startsReserved (readFields further).2 = false)
    (nameless : EndsInType (readFields further).2) : readDeclaration (text ++ namesLine) ≠ none := by
  have longer := keyword?_found_append breaksLine_namesLine found
  have named' := readsToken_templateName.found_behind_gap breaksLine_namesLine named
  obtain ⟨type, typed⟩ := typedName?_of_endsInType nameless
  obtain ⟨_, _, reads, -⟩ := nameless
  have readable := readsToken_typeName.readable reads
  have solid := skipGap_append_of_solid breaksLine_namesLine (readField_readFields further).2
    readable
  have free' : startsReserved ((readFields further).2 ++ namesLine) = false :=
    (startsReserved_append breaksLine_namesLine.startsBlank _).trans free
  have field := readField_eq_some_iff.mpr ⟨free', type, _, _, typed, rfl, rfl⟩
  have last : readFields (skipSemicolon " end".toList) = ([], "end".toList) :=
    readFields_of_none (readField_of_reserved (by decide +kernel))
  rw [readDeclaration_of_template longer]
  refine readTemplate_of_unfinished longer named' ?_
  rw [readFields_append breaksLine_namesLine further (.append breaksLine_namesLine further)
    readable, readFields_eq ((readFields further).2 ++ namesLine), solid, field]
  simp only [last]

/-- **Every declaration that breaks off is completed by names on the next line.** -/
theorem readDeclaration_ne_none_of_unfinished (unfinished : Unfinished text) :
    readDeclaration (text ++ namesLine) ≠ none := by
  cases unfinished with
  | keyword starts found gap => exact readDeclaration_of_keyword starts found gap
  | global found nameless => exact readDeclaration_of_global_type found nameless
  | field found named free nameless =>
      exact readDeclaration_of_field_type found named free nameless

end RuleVocabulary.Header
