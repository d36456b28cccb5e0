/-!
# Blank characters and trimmed text

Blank means the Unicode property `White_Space`: twenty-five characters, among them the no-break
space and the ideographic space. Text is trimmed on lists of characters, so that a trimmed text is
described by `List.dropWhile` and nothing else. Main statements: trimming an untouched text leaves
it alone (`trim_eq_self`), and every character of the standard library's blank class is blank here
(`isBlank_of_isWhitespace`).
-/

set_option autoImplicit false

namespace RuleVocabulary.Text

/-- The characters with the Unicode property `White_Space`. -/
def isBlank (c : Char) : Bool :=
  let code := c.toNat
  (9 ≤ code && code ≤ 13) || code == 0x20 || code == 0x85 || code == 0xA0 || code == 0x1680 ||
    (0x2000 ≤ code && code ≤ 0x200A) || code == 0x2028 || code == 0x2029 || code == 0x202F ||
    code == 0x205F || code == 0x3000

/-- The text without its leading blanks. -/
def trimStart (text : List Char) : List Char :=
  text.dropWhile isBlank

/-- The text without the longest ending whose characters all satisfy the test. -/
def dropEndWhile (test : Char → Bool) (text : List Char) : List Char :=
  (text.reverse.dropWhile test).reverse

/-- The text without its trailing blanks. -/
def trimEnd (text : List Char) : List Char :=
  dropEndWhile isBlank text

/-- The text without leading and trailing blanks. -/
def trim (text : List Char) : List Char :=
  trimEnd (trimStart text)

/-- A string without leading and trailing blanks. -/
def trimmed (text : String) : String :=
  String.ofList (trim text.toList)

/-! ## Small facts -/

/-- The standard library's blank class is part of this one. -/
theorem isBlank_of_isWhitespace (c : Char) (h : c.isWhitespace = true) : isBlank c = true := by
  simp only [Char.isWhitespace, Bool.or_eq_true, decide_eq_true_eq] at h
  rcases h with ((rfl | rfl) | rfl) | rfl <;> decide

theorem dropWhile_eq_self {test : Char → Bool} {text : List Char}
    (kept : ∀ c ∈ text.head?, test c = false) : text.dropWhile test = text := by
  cases text with
  | nil => rfl
  | cons c rest => simp [kept c (by simp)]

/-- A text that neither starts nor ends with a blank is trimmed already. -/
theorem trim_eq_self {text : List Char} (first : ∀ c ∈ text.head?, isBlank c = false)
    (last : ∀ c ∈ text.getLast?, isBlank c = false) : trim text = text := by
  have start : trimStart text = text := dropWhile_eq_self first
  unfold trim
  rw [start]
  unfold trimEnd dropEndWhile
  rw [dropWhile_eq_self (by simpa using last), List.reverse_reverse]

end RuleVocabulary.Text
