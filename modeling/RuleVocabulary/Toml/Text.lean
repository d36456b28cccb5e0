import RuleVocabulary.Text.Code

/-!
# Strings and blanks in TOML

A string stands between quotation marks, which allow escapes, or between apostrophes, which do not;
three of either make a long string, which may go over several lines and may hold up to two of its
own quotes where they close nothing. Control characters other than the tab stand nowhere, and a
carriage return only as part of a line end, which a string keeps as it is. Main statement: what
follows a string is shorter than the text it is read from (`length_readString_lt`).
-/

set_option autoImplicit false

namespace RuleVocabulary.Toml

/-- The blanks within a line. -/
def isBlank (c : Char) : Bool :=
  c = ' ' || c = '\t'

/-- The characters that may stand nowhere, line feeds aside. -/
def isControl (c : Char) : Bool :=
  (c.toNat < 0x20 && c ≠ '\t' && c ≠ '\n') || c.toNat = 0x7F

/-- The text without the blanks in front. -/
def skipBlank (text : List Char) : List Char :=
  text.dropWhile isBlank

theorem length_skipBlank_le (text : List Char) : (skipBlank text).length ≤ text.length :=
  (List.dropWhile_suffix isBlank).length_le

/-- The text behind the line end in front of it. -/
def behindLineEnd? : List Char → Option (List Char)
  | '\n' :: rest => some rest
  | '\r' :: '\n' :: rest => some rest
  | _ => none

theorem length_behindLineEnd?_lt {text rest : List Char} (found : behindLineEnd? text = some rest) :
    rest.length < text.length := by
  unfold behindLineEnd? at found
  split at found
  · obtain rfl := by simpa using found
    simp
  · obtain rfl := by simpa using found
    simp only [List.length_cons]
    omega
  · simp at found

/-- Passes blanks and line ends. -/
def skipSpace : List Char → List Char
  | [] => []
  | '\r' :: '\n' :: rest => skipSpace rest
  | c :: rest => if isBlank c || c = '\n' then skipSpace rest else c :: rest

theorem length_skipSpace_le (text : List Char) : (skipSpace text).length ≤ text.length := by
  fun_induction skipSpace text with
  | case1 => simp
  | case2 rest ih =>
    simp only [List.length_cons]
    omega
  | case3 c rest _ _ ih =>
    simp only [List.length_cons]
    omega
  | case4 => simp

/-- Passes blanks, comments and line ends. -/
def skipVoid (inComment : Bool) : List Char → Option (List Char)
  | [] => some []
  | '\r' :: '\n' :: rest => skipVoid false rest
  | c :: rest =>
    if c = '\n' then skipVoid false rest
    else if inComment then if isControl c then none else skipVoid true rest
    else if c = '#' then skipVoid true rest
    else if isBlank c then skipVoid false rest
    else some (c :: rest)

/-- Passes blanks and a comment up to the end of the line. -/
def skipLine (inComment : Bool) : List Char → Option (List Char)
  | [] => some []
  | '\r' :: '\n' :: rest => some rest
  | c :: rest =>
    if c = '\n' then some rest
    else if inComment then if isControl c then none else skipLine true rest
    else if c = '#' then skipLine true rest
    else if isBlank c then skipLine false rest
    else none

/-! ## Strings -/

/-- The kinds of strings. -/
structure Quotes where
  /-- The character that opens and closes the string. -/
  mark : Char
  /-- Whether three of them are needed for that. -/
  long : Bool

/-- The character that a one-letter escape stands for. -/
def shortEscape? (letter : Char) : Option Char :=
  if letter = '"' || letter = '\\' then some letter
  else if letter = 'b' then some '\x08'
  else if letter = 't' then some '\t'
  else if letter = 'n' then some '\n'
  else if letter = 'f' then some '\x0C'
  else if letter = 'r' then some '\r'
  else if letter = 'e' then some '\x1B'
  else none

/-- The number of hexadecimal digits behind a letter that announces them. -/
def hexDigits? (letter : Char) : Option Nat :=
  if letter = 'x' then some 2 else if letter = 'u' then some 4
  else if letter = 'U' then some 8 else none

/-- Reads what stands behind a backslash. In a long string the end of the line may stand there; it
is passed together with all blanks and line ends that follow. -/
def readEscape (quotes : Quotes) : List Char → Option (List Char × List Char)
  | [] => none
  | letter :: rest =>
    match shortEscape? letter, hexDigits? letter with
    | some c, _ => some ([c], rest)
    | none, some count => (Text.readHexChar count rest).map fun read => ([read.1], read.2)
    | none, none =>
      if quotes.long then
        (behindLineEnd? (skipBlank (letter :: rest))).map fun behind => ([], skipSpace behind)
      else none

theorem length_readEscape_lt {quotes : Quotes} {text content rest : List Char}
    (read : readEscape quotes text = some (content, rest)) : rest.length < text.length := by
  unfold readEscape at read
  split at read
  · simp at read
  · split at read
    · obtain ⟨-, rfl⟩ := by simpa using read
      simp
    · obtain ⟨c, found, -⟩ := by simpa using read
      exact Nat.lt_succ_of_le (Text.length_readHexChar_le found)
    · split at read
      · obtain ⟨behind, found, -, rfl⟩ := by simpa using read
        exact Nat.lt_of_le_of_lt (length_skipSpace_le behind)
          (Nat.lt_of_lt_of_le (length_behindLineEnd?_lt found) (length_skipBlank_le _))
      · simp at read

/-- Reads a string from behind its opening quotes. -/
def readString (quotes : Quotes) (text : List Char) : Option (List Char × List Char) :=
  match text with
  | [] => none
  | c :: rest =>
    if c = quotes.mark && !quotes.long then some ([], rest)
    else if c = quotes.mark && rest.take 2 = [c, c] then
      let more := ((rest.drop 2).take 2).takeWhile (· = c)
      some (more, rest.drop (2 + more.length))
    else if c = '\\' && quotes.mark = '"' then
      match escaped : readEscape quotes rest with
      | none => none
      | some (content, behind) =>
        have := length_readEscape_lt escaped
        (readString quotes behind).map fun read => (content ++ read.1, read.2)
    else if (isControl c && !(c = '\r' && quotes.long && rest.head? = some '\n')) ||
        (c = '\n' && !quotes.long) then none
    else (readString quotes rest).map fun read => (c :: read.1, read.2)
termination_by text.length

theorem length_readString_lt {quotes : Quotes} {text content rest : List Char}
    (read : readString quotes text = some (content, rest)) : rest.length < text.length := by
  fun_induction readString quotes text generalizing content with
  | case1 => simp at read
  | case2 c behind =>
    obtain ⟨-, rfl⟩ := by simpa using read
    simp
  | case3 c behind =>
    obtain ⟨-, rfl⟩ := by simpa using read
    simp only [List.length_drop, List.length_cons]
    omega
  | case4 => simp at read
  | case5 c behind _ _ _ start after escaped shorter ih =>
    obtain ⟨start', further, -, rfl⟩ := by simpa using read
    have := ih further
    simp
    omega
  | case6 => simp at read
  | case7 c behind _ _ _ _ ih =>
    obtain ⟨start', further, -, rfl⟩ := by simpa using read
    have := ih further
    simp
    omega

/-- Reads a string from behind its first quote. The line end with which a long string begins is
not part of it. -/
def readQuoted (mark : Char) (text : List Char) : Option (List Char × List Char) :=
  if text.take 2 = [mark, mark] then
    readString ⟨mark, true⟩ ((behindLineEnd? (text.drop 2)).getD (text.drop 2))
  else readString ⟨mark, false⟩ text

/-! ## Keys -/

/-- The characters of a key that is not quoted. -/
def isKeyChar (c : Char) : Bool :=
  c.isAlphanum || c = '_' || c = '-'

/-- Reads one key. Keys are never long strings. -/
def readKey (text : List Char) : Option (String × List Char) :=
  match text with
  | [] => none
  | c :: rest =>
    if c = '"' || c = '\'' then
      (readString ⟨c, false⟩ rest).map fun read => (String.ofList read.1, read.2)
    else if isKeyChar c then
      some (String.ofList (text.takeWhile isKeyChar), rest.dropWhile isKeyChar)
    else none

theorem length_readKey_lt {text rest : List Char} {key : String}
    (read : readKey text = some (key, rest)) : rest.length < text.length := by
  unfold readKey at read
  split at read
  · simp at read
  · split at read
    · obtain ⟨content, inside, -⟩ := by simpa using read
      exact Nat.lt_succ_of_lt (length_readString_lt inside)
    · split at read
      · obtain ⟨-, rfl⟩ := by simpa using read
        exact Nat.lt_succ_of_le (List.dropWhile_suffix _).length_le
      · simp at read

/-- Reads the keys that points join. -/
def readKeys (text : List Char) : Option (List String × List Char) :=
  match found : readKey text with
  | none => none
  | some (key, rest) =>
    have := length_readKey_lt found
    match further : skipBlank rest with
    | '.' :: behind =>
      have : (skipBlank behind).length < text.length := by
        have := length_skipBlank_le rest
        have := length_skipBlank_le behind
        simp_all only [List.length_cons]
        omega
      (readKeys (skipBlank behind)).map fun read => (key :: read.1, read.2)
    | behind => some ([key], behind)
termination_by text.length

/-- How many keys points may join. -/
def pathLimit : Nat := 80

/-- Reads the keys that points join, which must not be too many. -/
def readPath (text : List Char) : Option (List String × List Char) :=
  match readKeys text with
  | some (keys, rest) => if keys.length ≤ pathLimit then some (keys, rest) else none
  | none => none

end RuleVocabulary.Toml
