import RuleVocabulary.Header.Word
import RuleVocabulary.Proofs.Header.Gap

/-!
# Tokens and what follows them

A token ends where the text goes on with a character that it cannot hold, so a tail that begins
with a blank changes nothing but what is left: for each reader of tokens, reading a text with such
a tail is reading the text and putting the tail behind what is left (`word?_append` and its kin).
A quoted string may hold blanks, so its tail has to begin on a new line.

A keyword is the longest word part at the front of a text (`keyword?_eq_some_iff`). Hence a text
begins with at most one keyword (`keyword?_eq_none_of_ne`).
-/

set_option autoImplicit false

namespace RuleVocabulary.Header

/-- A text that is empty or begins with a blank. -/
def StartsBlank (tail : List Char) : Prop :=
  ∀ c ∈ tail.head?, isGapBlank c = true

variable {tail : List Char}

theorem BreaksLine.startsBlank (breaks : BreaksLine tail) : StartsBlank tail := by
  obtain ⟨ending, rest, rfl, ends⟩ := breaks
  intro c first
  obtain rfl := Option.some.inj first
  exact isGapBlank_of_endsLine ends

/-- Blanks are in no word. -/
theorem isWordPart_of_isGapBlank {c : Char} (blank : isGapBlank c = true) :
    isWordPart c = false := by
  simp only [isGapBlank, Bool.or_eq_true, decide_eq_true_eq] at blank
  rcases blank with ((rfl | rfl) | rfl) | rfl <;> rfl

theorem isWordPart_of_isWordStart {c : Char} (starts : isWordStart c = true) :
    isWordPart c = true := by
  simp only [isWordStart, isWordPart, Char.isAlphanum, Bool.or_eq_true] at starts ⊢
  rcases starts with (letter | underscore) | dollar
  · exact .inl (.inl (.inl letter))
  · exact .inl (.inr underscore)
  · exact .inr dollar

/-- What a word cannot hold does not begin one. -/
theorem isWordStart_of_isWordPart {c : Char} (outside : isWordPart c = false) :
    isWordStart c = false := by
  by_contra starts
  rw [Bool.not_eq_false] at starts
  rw [isWordPart_of_isWordStart starts] at outside
  cases outside

/-! ## Runs of characters -/

section Runs

variable {test : Char → Bool}

theorem takeWhile_append_of_stop (stops : ∀ c ∈ tail.head?, test c = false) (text : List Char) :
    (text ++ tail).takeWhile test = text.takeWhile test := by
  induction text with
  | nil =>
      cases tail with
      | nil => rfl
      | cons c rest => simp [stops c rfl]
  | cons c text ih =>
      rw [List.cons_append, List.takeWhile_cons, List.takeWhile_cons, ih]

theorem dropWhile_append_of_stop (stops : ∀ c ∈ tail.head?, test c = false) (text : List Char) :
    (text ++ tail).dropWhile test = text.dropWhile test ++ tail := by
  induction text with
  | nil =>
      cases tail with
      | nil => rfl
      | cons c rest => simp [stops c rfl]
  | cons c text ih =>
      rw [List.cons_append, List.dropWhile_cons, List.dropWhile_cons, ih]
      split <;> rfl

end Runs

/-- Two characters that are no blanks stand before a tail that begins with one, or behind its
first character. -/
theorem exists_pair_of_append (blank : StartsBlank tail) {first second : Char}
    (solid : isGapBlank first = false) (alsoSolid : isGapBlank second = false)
    {text rest : List Char} (cut : text ++ tail = first :: second :: rest) :
    ∃ behind, text = first :: second :: behind := by
  rcases text with _ | ⟨c, _ | ⟨d, behind⟩⟩
  · have first := blank first (by simp_all)
    simp_all
  · have second := blank second (by simp_all)
    simp_all
  · obtain ⟨rfl, rfl, -⟩ : c = first ∧ d = second ∧ behind ++ tail = rest := by simpa using cut
    exact ⟨behind, rfl⟩

theorem StartsBlank.stopsWord (blank : StartsBlank tail) :
    ∀ c ∈ tail.head?, isWordPart c = false :=
  fun c first => isWordPart_of_isGapBlank (blank c first)

/-- What a reader found in a text, with a tail behind what it left. -/
def withTail {α : Type} (tail : List Char) (found : α × List Char) : α × List Char :=
  (found.1, found.2 ++ tail)

/-! ## Words -/

theorem word?_eq_none_of_stop {text : List Char} (stops : ∀ c ∈ text.head?, isWordStart c = false) :
    word? text = none := by
  cases text with
  | nil => rfl
  | cons c rest => simp [word?, stops c rfl]

theorem word?_append (blank : StartsBlank tail) (text : List Char) :
    word? (text ++ tail) = (word? text).map (withTail tail) := by
  cases text with
  | nil =>
      exact word?_eq_none_of_stop fun c first =>
        isWordStart_of_isWordPart (blank.stopsWord c first)
  | cons c rest =>
      rw [List.cons_append, word?, word?, takeWhile_append_of_stop blank.stopsWord,
        dropWhile_append_of_stop blank.stopsWord]
      split <;> rfl

theorem word?_suffix {text word rest : List Char} (found : word? text = some (word, rest)) :
    rest <:+ text := by
  unfold word? at found
  split at found
  · rename_i c behind
    split at found
    · cases found
      exact (List.dropWhile_suffix isWordPart).trans (List.suffix_cons c behind)
    · cases found
  · cases found

theorem dottedWords_of_word {behind word rest : List Char}
    (found : word? behind = some (word, rest)) :
    dottedWords ('.' :: behind) =
      ('.' :: word ++ (dottedWords rest).1, (dottedWords rest).2) := by
  rw [dottedWords]
  split
  · rename_i other further same
    rw [found] at same
    cases same
    rfl
  · rename_i missing
    rw [found] at missing
    cases missing

theorem dottedWords_of_none {behind : List Char} (missing : word? behind = none) :
    dottedWords ('.' :: behind) = ([], '.' :: behind) := by
  rw [dottedWords]
  split
  · rename_i found
    rw [missing] at found
    cases found
  · rfl

theorem dottedWords_of_ne {text : List Char} (noDot : ∀ c ∈ text.head?, c ≠ '.') :
    dottedWords text = ([], text) := by
  cases text with
  | nil =>
      rw [dottedWords]
      intro behind cut
      cases cut
  | cons c rest =>
      rw [dottedWords]
      rintro behind cut
      exact noDot c rfl (List.cons.inj cut).1

theorem StartsBlank.noDot (blank : StartsBlank tail) : ∀ c ∈ tail.head?, c ≠ '.' := by
  rintro c first rfl
  cases blank '.' first

theorem dottedWords_append (blank : StartsBlank tail) (text : List Char) :
    dottedWords (text ++ tail) = withTail tail (dottedWords text) := by
  fun_induction dottedWords text with
  | case1 behind word rest found _ more ih =>
      have longer : word? (behind ++ tail) = some (word, rest ++ tail) := by
        rw [word?_append blank, found]
        rfl
      rw [List.cons_append, dottedWords_of_word longer, ih]
      rfl
  | case2 behind missing =>
      have longer : word? (behind ++ tail) = none := by
        rw [word?_append blank, missing]
        rfl
      rw [List.cons_append, dottedWords_of_none longer]
      rfl
  | case3 text noDot =>
      refine dottedWords_of_ne ?_
      cases text with
      | nil => exact blank.noDot
      | cons c rest =>
          rintro d first rfl
          obtain rfl := Option.some.inj first
          exact noDot rest rfl

theorem dottedWords_suffix (text : List Char) : (dottedWords text).2 <:+ text := by
  fun_induction dottedWords text with
  | case1 behind word rest found _ more ih =>
      exact (ih.trans (word?_suffix found)).trans (List.suffix_cons '.' behind)
  | case2 => exact List.suffix_rfl
  | case3 => exact List.suffix_rfl

/-! ## Dotted names -/

/-- The wildcard at the front of a text, and what follows it. -/
def wildcard : List Char → List Char × List Char
  | '.' :: '*' :: rest => (['.', '*'], rest)
  | text => ([], text)

theorem qualifiedName?_eq (text : List Char) :
    qualifiedName? text = (word? text).map fun found =>
      let more := dottedWords found.2
      let last := wildcard more.2
      (found.1 ++ more.1 ++ last.1, last.2) := by
  unfold qualifiedName?
  cases word? text with
  | none => rfl
  | some found =>
      simp only [Option.map_some]
      split
      · rename_i rest cut
        rw [cut]
        rfl
      · rename_i other
        rw [wildcard]
        · simp
        · exact other

theorem wildcard_append (blank : StartsBlank tail) (text : List Char) :
    wildcard (text ++ tail) = withTail tail (wildcard text) := by
  fun_cases wildcard text with
  | case1 rest => rfl
  | case2 _ other =>
      rw [wildcard]
      · rfl
      · intro rest cut
        obtain ⟨behind, rfl⟩ := exists_pair_of_append blank rfl rfl cut
        exact other behind rfl

theorem qualifiedName?_append (blank : StartsBlank tail) (text : List Char) :
    qualifiedName? (text ++ tail) = (qualifiedName? text).map (withTail tail) := by
  rw [qualifiedName?_eq, qualifiedName?_eq, word?_append blank, Option.map_map, Option.map_map]
  refine congrArg (fun read => (word? text).map read) (funext fun found => ?_)
  simp only [Function.comp_apply, withTail, dottedWords_append blank, wildcard_append blank]

theorem wildcard_suffix (text : List Char) : (wildcard text).2 <:+ text := by
  fun_cases wildcard text with
  | case1 rest => exact ⟨['.', '*'], rfl⟩
  | case2 => exact List.suffix_rfl

theorem qualifiedName?_suffix {text name rest : List Char}
    (found : qualifiedName? text = some (name, rest)) : rest <:+ text := by
  rw [qualifiedName?_eq, Option.map_eq_some_iff] at found
  obtain ⟨⟨first, behind⟩, word, same⟩ := found
  cases same
  exact ((wildcard_suffix _).trans (dottedWords_suffix _)).trans (word?_suffix word)

theorem qualifiedName?_eq_none_iff {text : List Char} :
    qualifiedName? text = none ↔ word? text = none := by
  rw [qualifiedName?_eq, Option.map_eq_none_iff]

/-! ## Type names -/

theorem brackets_append (blank : StartsBlank tail) (text : List Char) :
    brackets (text ++ tail) = withTail tail (brackets text) := by
  fun_induction brackets text with
  | case1 behind more ih =>
      rw [List.cons_append, List.cons_append, brackets, ih]
      rfl
  | case2 text other =>
      rw [brackets]
      · rfl
      · intro rest cut
        obtain ⟨behind, rfl⟩ := exists_pair_of_append blank rfl rfl cut
        exact other behind rfl

theorem brackets_suffix (text : List Char) : (brackets text).2 <:+ text := by
  fun_induction brackets text with
  | case1 behind more ih => exact ih.trans ⟨['[', ']'], rfl⟩
  | case2 => exact List.suffix_rfl

theorem typeName?_eq (text : List Char) :
    typeName? text = (word? text).map fun found =>
      let more := dottedWords found.2
      let dimensions := brackets more.2
      (found.1 ++ more.1 ++ dimensions.1, dimensions.2) := by
  unfold typeName?
  cases word? text <;> rfl

theorem typeName?_append (blank : StartsBlank tail) (text : List Char) :
    typeName? (text ++ tail) = (typeName? text).map (withTail tail) := by
  rw [typeName?_eq, typeName?_eq, word?_append blank, Option.map_map, Option.map_map]
  refine congrArg (fun read => (word? text).map read) (funext fun found => ?_)
  simp only [Function.comp_apply, withTail, dottedWords_append blank, brackets_append blank]

theorem typeName?_suffix {text name rest : List Char}
    (found : typeName? text = some (name, rest)) : rest <:+ text := by
  rw [typeName?_eq, Option.map_eq_some_iff] at found
  obtain ⟨⟨first, behind⟩, word, same⟩ := found
  cases same
  exact ((brackets_suffix _).trans (dottedWords_suffix _)).trans (word?_suffix word)

theorem typeName?_eq_none_iff {text : List Char} :
    typeName? text = none ↔ word? text = none := by
  rw [typeName?_eq, Option.map_eq_none_iff]

/-! ## Quoted strings -/

theorem BreaksLine.stopsQuoted (breaks : BreaksLine tail) :
    ∀ c ∈ tail.head?, isQuotable c = false := by
  obtain ⟨ending, rest, rfl, ends⟩ := breaks
  rintro c first
  obtain rfl := Option.some.inj first
  simp [isQuotable, ends]

theorem quoted?_append (breaks : BreaksLine tail) (text : List Char) :
    quoted? (text ++ tail) = (quoted? text).map (withTail tail) := by
  have unquoted : ∀ c ∈ tail.head?, c ≠ '"' := by
    rintro c first rfl
    cases breaks.startsBlank '"' first
  rcases text with _ | ⟨c, behind⟩
  · rcases tail with _ | ⟨d, rest⟩
    · rfl
    · have other := unquoted d rfl
      simp [quoted?, other]
  by_cases quote : c = '"'
  · subst quote
    simp only [List.cons_append, quoted?, dropWhile_append_of_stop breaks.stopsQuoted,
      takeWhile_append_of_stop breaks.stopsQuoted]
    rcases behind.dropWhile isQuotable with _ | ⟨d, rest⟩
    · rcases tail with _ | ⟨d, rest⟩
      · rfl
      · have other := unquoted d rfl
        simp [other]
    · by_cases closing : d = '"'
      · subst closing
        rfl
      · simp [closing]
  · simp [quoted?, quote]

theorem quoted?_suffix {text inside rest : List Char}
    (found : quoted? text = some (inside, rest)) : rest <:+ text := by
  unfold quoted? at found
  split at found
  · rename_i behind
    split at found
    · rename_i further closed
      cases found
      have dropped := List.dropWhile_suffix isQuotable (l := behind)
      rw [closed] at dropped
      exact ((List.suffix_cons '"' rest).trans dropped).trans (List.suffix_cons '"' behind)
    · cases found
  · cases found

theorem quoted?_eq_none_of_ne {text : List Char} (unquoted : ∀ c ∈ text.head?, c ≠ '"') :
    quoted? text = none := by
  cases text with
  | nil => rfl
  | cons c rest => simp [quoted?, unquoted c rfl]

/-! ## Keywords -/

theorem dropFront?_eq_some_iff {front text rest : List Char} :
    dropFront? front text = some rest ↔ text = front ++ rest := by
  fun_induction dropFront? front text with
  | case1 text => simp [eq_comm]
  | case2 c front text ih => simp [ih]
  | case3 c front d text different => simp [Ne.symm different]
  | case4 => simp

theorem Keyword.isWordPart_of_mem {keyword : Keyword} :
    ∀ c ∈ keyword.spelling, isWordPart c = true := by
  rw [← List.all_eq_true]
  cases keyword <;> rfl

theorem Keyword.spelling_injective {first second : Keyword}
    (same : first.spelling = second.spelling) : first = second := by
  revert same
  cases first <;> cases second <;> decide

/-- **A keyword is the longest word part at the front of a text.** -/
theorem keyword?_eq_some_iff {keyword : Keyword} {text rest : List Char} :
    keyword? keyword text = some rest ↔
      text.takeWhile isWordPart = keyword.spelling ∧ text.dropWhile isWordPart = rest := by
  constructor
  · intro found
    unfold keyword? at found
    split at found
    · rename_i behind front
      obtain rfl := dropFront?_eq_some_iff.mp front
      split at found
      · cases found
      · rename_i ends
        obtain rfl := Option.some.inj found
        have stops : ∀ c ∈ behind.head?, isWordPart c = false := by
          intro c first
          rw [Option.mem_def.mp first] at ends
          simpa using ends
        rw [takeWhile_append_of_stop stops, dropWhile_append_of_stop stops,
          List.takeWhile_eq_self_iff.mpr Keyword.isWordPart_of_mem,
          List.dropWhile_eq_nil_iff.mpr Keyword.isWordPart_of_mem]
        exact ⟨rfl, rfl⟩
    · cases found
  · rintro ⟨front, rfl⟩
    have cut := List.takeWhile_append_dropWhile (p := isWordPart) (l := text)
    rw [front] at cut
    have ends : (text.dropWhile isWordPart).head?.any isWordPart = false := by
      cases behind : text.dropWhile isWordPart with
      | nil => rfl
      | cons c rest =>
          have first := List.head?_dropWhile_not isWordPart text
          simpa [behind] using first
    rw [keyword?, dropFront?_eq_some_iff.mpr cut.symm]
    simp [ends]

/-- A text begins with at most one keyword. -/
theorem keyword?_eq_none_of_ne {first second : Keyword} {text rest : List Char}
    (found : keyword? first text = some rest) (different : first ≠ second) :
    keyword? second text = none := by
  by_contra other
  obtain ⟨further, also⟩ := Option.ne_none_iff_exists'.mp other
  have front := (keyword?_eq_some_iff.mp found).1
  rw [(keyword?_eq_some_iff.mp also).1] at front
  exact different (Keyword.spelling_injective front).symm

theorem keyword?_append (blank : StartsBlank tail) (keyword : Keyword) (text : List Char) :
    keyword? keyword (text ++ tail) = (keyword? keyword text).map (· ++ tail) := by
  apply Option.ext
  intro rest
  rw [keyword?_eq_some_iff, takeWhile_append_of_stop blank.stopsWord,
    dropWhile_append_of_stop blank.stopsWord, Option.map_eq_some_iff]
  constructor
  · rintro ⟨front, rfl⟩
    exact ⟨_, keyword?_eq_some_iff.mpr ⟨front, rfl⟩, rfl⟩
  · rintro ⟨behind, found, rfl⟩
    obtain ⟨front, rfl⟩ := keyword?_eq_some_iff.mp found
    exact ⟨front, rfl⟩

theorem keyword?_suffix {keyword : Keyword} {text rest : List Char}
    (found : keyword? keyword text = some rest) : rest <:+ text := by
  obtain ⟨-, rfl⟩ := keyword?_eq_some_iff.mp found
  exact List.dropWhile_suffix isWordPart

theorem startsReserved_of_keyword? {keyword : Keyword} {text rest : List Char}
    (reserved : keyword ∈ Keyword.reserved) (found : keyword? keyword text = some rest) : startsReserved text = true := by
  rw [startsReserved, List.any_eq_true]
  exact ⟨keyword, reserved, by rw [found]; rfl⟩

theorem startsReserved_append (blank : StartsBlank tail) (text : List Char) :
    startsReserved (text ++ tail) = startsReserved text := by
  unfold startsReserved
  simp only [keyword?_append blank, Option.isSome_map]

end RuleVocabulary.Header
