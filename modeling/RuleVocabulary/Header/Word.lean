import RuleVocabulary.Header.Gap

/-!
# The words of a package header

The lexical classes of a header, each with a reader that takes the longest such piece from the
front of a text and returns it with what follows: words, dotted names with an optional wildcard,
type names with brackets, quoted strings, and keywords. A keyword is a keyword only where no word
goes on behind it. Each reader shortens the text it reads from (`length_word?_lt` and its kin).
-/

set_option autoImplicit false

namespace RuleVocabulary.Header

/-- A letter, an underscore or a dollar sign. -/
def isWordStart (c : Char) : Bool :=
  c.isAlpha || c = '_' || c = '$'

/-- What a word may go on with: also digits. -/
def isWordPart (c : Char) : Bool :=
  c.isAlphanum || c = '_' || c = '$'

/-- A word and what follows it. -/
def word? : List Char → Option (List Char × List Char)
  | c :: rest =>
    if isWordStart c then some (c :: rest.takeWhile isWordPart, rest.dropWhile isWordPart)
    else none
  | [] => none

theorem length_word?_lt {text word rest : List Char} (found : word? text = some (word, rest)) :
    rest.length < text.length := by
  unfold word? at found
  split at found
  · rename_i c tail
    split at found
    · obtain ⟨-, rfl⟩ := by simpa using found
      have := (List.dropWhile_sublist isWordPart (l := tail)).length_le
      simp
      omega
    · simp at found
  · simp at found

/-- The longest sequence of a dot and a word, repeated, and what follows it. -/
def dottedWords (text : List Char) : List Char × List Char :=
  match text with
  | '.' :: behind =>
    match found : word? behind with
    | some (word, rest) =>
      have : rest.length < behind.length := length_word?_lt found
      let more := dottedWords rest
      ('.' :: word ++ more.1, more.2)
    | none => ([], text)
  | _ => ([], text)
termination_by text.length
decreasing_by simp; omega

theorem length_dottedWords_le (text : List Char) :
    (dottedWords text).2.length ≤ text.length := by
  fun_induction dottedWords text with
  | case1 behind word rest found shorter more ih =>
    have : more.2.length ≤ rest.length := ih
    simp
    omega
  | case2 => simp
  | case3 => simp

/-- Words joined by dots, with an optional final `.*`. -/
def qualifiedName? (text : List Char) : Option (List Char × List Char) :=
  match word? text with
  | none => none
  | some (first, behind) =>
    let more := dottedWords behind
    match more.2 with
    | '.' :: '*' :: rest => some (first ++ more.1 ++ ['.', '*'], rest)
    | rest => some (first ++ more.1, rest)

theorem length_qualifiedName?_lt {text name rest : List Char}
    (found : qualifiedName? text = some (name, rest)) : rest.length < text.length := by
  unfold qualifiedName? at found
  split at found
  · simp at found
  · rename_i first behind word
    have behindShorter := length_word?_lt word
    have dottedShorter := length_dottedWords_le behind
    simp only at found
    split at found
    · rename_i tail wildcard
      obtain ⟨-, rfl⟩ := by simpa using found
      rw [wildcard] at dottedShorter
      simp at dottedShorter
      omega
    · obtain ⟨-, rfl⟩ := by simpa using found
      omega

/-- The longest run of empty brackets, and what follows it. -/
def brackets : List Char → List Char × List Char
  | '[' :: ']' :: behind =>
    let more := brackets behind
    ('[' :: ']' :: more.1, more.2)
  | text => ([], text)

theorem length_brackets_le (text : List Char) : (brackets text).2.length ≤ text.length := by
  fun_induction brackets text with
  | case1 behind more ih =>
    have : more.2.length ≤ behind.length := ih
    simp
    omega
  | case2 => simp

/-- Words joined by dots, with any number of empty brackets. -/
def typeName? (text : List Char) : Option (List Char × List Char) :=
  match word? text with
  | none => none
  | some (first, behind) =>
    let more := dottedWords behind
    let dimensions := brackets more.2
    some (first ++ more.1 ++ dimensions.1, dimensions.2)

theorem length_typeName?_lt {text name rest : List Char}
    (found : typeName? text = some (name, rest)) : rest.length < text.length := by
  unfold typeName? at found
  split at found
  · simp at found
  · rename_i first behind word
    obtain ⟨-, rfl⟩ := by simpa using found
    have := length_word?_lt word
    have := length_dottedWords_le behind
    have := length_brackets_le (dottedWords behind).2
    omega

/-- What a quoted string may hold: anything but a quote or the end of a line. -/
def isQuotable (c : Char) : Bool :=
  !(c = '"' || endsLine c)

/-- The inside of a quoted string, and what follows its closing quote. -/
def quoted? : List Char → Option (List Char × List Char)
  | '"' :: behind =>
    match behind.dropWhile isQuotable with
    | '"' :: rest => some (behind.takeWhile isQuotable, rest)
    | _ => none
  | _ => none

theorem length_quoted?_lt {text inside rest : List Char}
    (found : quoted? text = some (inside, rest)) : rest.length < text.length := by
  unfold quoted? at found
  split at found
  · rename_i behind
    split at found
    · rename_i tail closed
      obtain ⟨-, rfl⟩ := by simpa using found
      have := (List.dropWhile_sublist isQuotable (l := behind)).length_le
      rw [closed] at this
      simp at this
      simp
      omega
    · simp at found
  · simp at found

/-! ## Keywords -/

/-- The words that mean something to a header. -/
inductive Keyword where
  | packageWord
  | importWord
  | functionWord
  | globalWord
  | templateWord
  | endWord
  | expanderWord
  | dialectWord
deriving DecidableEq, Repr

namespace Keyword

/-- How a keyword is written. -/
def spelling : Keyword → List Char
  | packageWord => "package".toList
  | importWord => "import".toList
  | functionWord => "function".toList
  | globalWord => "global".toList
  | templateWord => "template".toList
  | endWord => "end".toList
  | expanderWord => "expander".toList
  | dialectWord => "dialect".toList

/-- The keywords that end a template early: all but `function`. -/
def reserved : List Keyword :=
  [packageWord, importWord, globalWord, templateWord, endWord, expanderWord, dialectWord]

end Keyword

/-- The text behind the given characters, if it starts with them. -/
def dropFront? : List Char → List Char → Option (List Char)
  | [], text => some text
  | c :: front, d :: text => if c = d then dropFront? front text else none
  | _ :: _, [] => none

theorem length_dropFront? {front text rest : List Char}
    (found : dropFront? front text = some rest) : text.length = front.length + rest.length := by
  fun_induction dropFront? front text with
  | case1 => simp_all
  | case2 c front text ih => have := ih found; simp; omega
  | case3 => simp at found
  | case4 => simp at found

/-- What follows a keyword, if the text starts with it and no word goes on behind it. -/
def keyword? (keyword : Keyword) (text : List Char) : Option (List Char) :=
  match dropFront? keyword.spelling text with
  | some rest => if rest.head?.any isWordPart then none else some rest
  | none => none

theorem length_keyword?_lt {keyword : Keyword} {text rest : List Char}
    (found : keyword? keyword text = some rest) : rest.length < text.length := by
  unfold keyword? at found
  split at found
  · rename_i behind front
    split at found
    · simp at found
    · obtain rfl := by simpa using found
      have spelled : 0 < keyword.spelling.length := by cases keyword <;> decide
      have := length_dropFront? front
      omega
  · simp at found

/-- Whether a text starts with a keyword that ends a template early. -/
def startsReserved (text : List Char) : Bool :=
  Keyword.reserved.any fun keyword => (keyword? keyword text).isSome

end RuleVocabulary.Header
