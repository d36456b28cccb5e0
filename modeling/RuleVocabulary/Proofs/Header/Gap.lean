import Mathlib.Data.List.TakeWhile
import RuleVocabulary.Header.Gap

/-!
# What a gap is made of

A gap is a run of fillers: blanks, line comments up to the end of their line, and closed block
comments. `Skips text left` says so about a text and what is left behind its gap, and skipping is
the function that this relation describes (`skips_skipGap`). Everything else is an induction on the
relation: what is left is an ending of the text (`skipGap_suffix`) in front of which nothing more
can be skipped (`skipGap_skipGap`).

Main statement: a tail that begins on a new line leaves alone what is skipped before it
(`skipGap_append`). There is one exception, a block comment that the text leaves open, for the tail
may close it.
-/

set_option autoImplicit false

namespace RuleVocabulary.Header

/-! ## Block comments -/

/-- What follows a comment is found exactly where the comment is closed for the first time. -/
theorem afterComment?_closed {inside : List Char} (plain : ¬ ['*', '/'] <:+: inside)
    (rest : List Char) : afterComment? (inside ++ '*' :: '/' :: rest) = some rest := by
  induction inside with
  | nil => rfl
  | cons c inside ih =>
      have behind : ¬ ['*', '/'] <:+: inside := fun within => plain (within.trans
        (List.suffix_cons c inside).isInfix)
      -- `c` does not close the comment: a slash behind it would make a `*/` inside
      have early : ∀ further, c = '*' → inside ++ '*' :: '/' :: rest = '/' :: further → False := by
        rintro further rfl slash
        cases inside with
        | nil => cases slash
        | cons d inside =>
            obtain ⟨rfl, -⟩ := List.cons.inj slash
            exact plain ⟨[], inside, rfl⟩
      rw [List.cons_append, afterComment?.eq_2 _ _ early]
      exact ih behind

theorem afterComment?_eq_none_iff {text : List Char} :
    afterComment? text = none ↔ ¬ ['*', '/'] <:+: text := by
  constructor
  · rintro never ⟨before, behind, rfl⟩
    induction before with
    | nil => cases never
    | cons c before ih =>
        rw [List.cons_append, List.cons_append] at never
        unfold afterComment? at never
        split at never
        · cases never
        · rename_i cut
          obtain ⟨-, rfl⟩ := List.cons.inj cut
          exact ih never
        · rename_i cut
          cases cut
  · intro plain
    fun_induction afterComment? text with
    | case1 rest => exact absurd ⟨[], rest, rfl⟩ plain
    | case2 c rest _ ih =>
        exact ih fun within => plain (within.trans (List.suffix_cons c rest).isInfix)
    | case3 => rfl

/-- A closed comment ends in `*/`, and holds no other. -/
theorem exists_inside_of_afterComment? {text rest : List Char}
    (found : afterComment? text = some rest) :
    ∃ inside, ¬ ['*', '/'] <:+: inside ∧ text = inside ++ '*' :: '/' :: rest := by
  fun_induction afterComment? text with
  | case1 behind =>
      obtain rfl := Option.some.inj found
      exact ⟨[], by simp, rfl⟩
  | case2 c behind notClosed ih =>
      obtain ⟨inside, plain, rfl⟩ := ih found
      refine ⟨c :: inside, ?_, rfl⟩
      rw [List.infix_cons_iff]
      rintro (⟨further, front⟩ | within)
      · rw [List.cons_append, List.cons_append, List.cons.injEq] at front
        obtain ⟨rfl, front⟩ := front
        cases inside with
        | nil => cases front
        | cons d inside =>
            rw [List.cons.injEq] at front
            obtain ⟨rfl, -⟩ := front
            exact notClosed _ rfl rfl
      · exact plain within
  | case3 => cases found

/-- A text that begins with a block comment and never closes it. -/
def OpensComment (text : List Char) : Prop :=
  ∃ inside, text = '/' :: '*' :: inside ∧ ¬ ['*', '/'] <:+: inside

/-! ## Fillers -/

/-- How a line comment begins. -/
inductive LineMark where
  | slashes
  | hash
deriving DecidableEq, Repr

/-- The characters of a mark. -/
def LineMark.chars : LineMark → List Char
  | slashes => ['/', '/']
  | hash => ['#']

/-- What may stand between two tokens. A line comment takes the end of its line along, and a
block comment ends where it is closed for the first time. -/
inductive Filler where
  | blank (c : Char) (isBlank : isGapBlank c = true)
  | line (mark : LineMark) (inside : List Char) (ending : Char)
      (oneLine : ∀ c ∈ inside, endsLine c = false) (ends : endsLine ending = true)
  | block (inside : List Char) (plain : ¬ ['*', '/'] <:+: inside)

/-- The characters of a filler. -/
def Filler.chars : Filler → List Char
  | blank c _ => [c]
  | line mark inside ending _ _ => mark.chars ++ inside ++ [ending]
  | block inside _ => '/' :: '*' :: inside ++ ['*', '/']

theorem isGapBlank_of_endsLine {c : Char} (ends : endsLine c = true) : isGapBlank c = true := by
  simp only [endsLine, Bool.or_eq_true, decide_eq_true_eq] at ends
  rcases ends with rfl | rfl <;> rfl

theorem skipGap_blank {c : Char} (blank : isGapBlank c = true) (rest : List Char) :
    skipGap (c :: rest) = skipGap rest := by
  have slash : c ≠ '/' := by rintro rfl; cases blank
  have hash : c ≠ '#' := by rintro rfl; cases blank
  simp [skipGap, skipGapFrom, slash, hash, blank]

theorem skipGap_mark (mark : LineMark) (rest : List Char) :
    skipGap (mark.chars ++ rest) = skipGapFrom .inLine rest := by
  cases mark <;> simp [LineMark.chars, skipGap, skipGapFrom]

theorem skipGapFrom_inLine_append {inside : List Char} (oneLine : ∀ c ∈ inside, endsLine c = false)
    (rest : List Char) :
    skipGapFrom .inLine (inside ++ rest) = skipGapFrom .inLine rest := by
  induction inside with
  | nil => rfl
  | cons c inside ih =>
      rw [List.cons_append, skipGapFrom, oneLine c (List.mem_cons_self ..)]
      exact ih fun d member => oneLine d (List.mem_cons_of_mem _ member)

theorem skipGapFrom_inLine_break {ending : Char} (ends : endsLine ending = true)
    (rest : List Char) : skipGapFrom .inLine (ending :: rest) = skipGap rest := by
  rw [skipGapFrom, if_pos ends, skipGap]

/-- A filler is skipped, whatever follows it. -/
theorem skipGap_filler (filler : Filler) (rest : List Char) :
    skipGap (filler.chars ++ rest) = skipGap rest := by
  cases filler with
  | blank c isBlank => exact skipGap_blank isBlank rest
  | line mark inside ending oneLine ends =>
      simp only [Filler.chars, List.append_assoc]
      rw [skipGap_mark, skipGapFrom_inLine_append oneLine]
      exact skipGapFrom_inLine_break ends rest
  | block inside plain =>
      have closed := afterComment?_closed plain rest
      simp only [Filler.chars, List.cons_append, List.append_assoc, List.nil_append]
      exact skipGap_block_closed closed

/-! ## Skipping as a relation -/

/-- A text, and what is left of it behind its gap. -/
inductive Skips : List Char → List Char → Prop where
  /-- The gap begins with a filler. -/
  | filler (filler : Filler) {text left : List Char} :
      Skips text left → Skips (filler.chars ++ text) left
  /-- A line comment goes on to the end of the text. -/
  | lastLine (mark : LineMark) {inside : List Char}
      (oneLine : ∀ c ∈ inside, endsLine c = false) : Skips (mark.chars ++ inside) []
  /-- Nothing can be skipped. -/
  | stop {text : List Char} (solid : skipGap text = text) : Skips text text

theorem skips_of_solid {text : List Char} (solid : skipGap text = text) :
    Skips text (skipGap text) := by
  rw [solid]
  exact .stop solid

theorem skips_of_mark (mark : LineMark) {behind : List Char}
    (shorter : ∀ rest : List Char, rest.length < behind.length → Skips rest (skipGap rest)) :
    Skips (mark.chars ++ behind) (skipGap (mark.chars ++ behind)) := by
  have cut := List.takeWhile_append_dropWhile (p := fun c => !endsLine c) (l := behind)
  have oneLine : ∀ c ∈ behind.takeWhile fun c => !endsLine c, endsLine c = false := by
    intro c member
    simpa using List.all_eq_true.mp List.all_takeWhile c member
  cases further : behind.dropWhile fun c => !endsLine c with
  | nil =>
      rw [further, List.append_nil] at cut
      rw [cut] at oneLine
      have skipped : skipGap (mark.chars ++ behind) = [] := by
        rw [skipGap_mark, ← List.append_nil behind, skipGapFrom_inLine_append oneLine]
        rfl
      rw [skipped]
      exact .lastLine mark oneLine
  | cons ending rest =>
      have ends : endsLine ending = true := by
        have first := List.head?_dropWhile_not (fun c => !endsLine c) behind
        simpa [further] using first
      rw [further] at cut
      have less : rest.length < behind.length := by
        rw [← cut]
        simp only [List.length_append, List.length_cons]
        omega
      have whole : (Filler.line mark _ ending oneLine ends).chars ++ rest =
          mark.chars ++ behind := by
        simp only [Filler.chars, List.append_assoc, List.singleton_append]
        rw [cut]
      have skipped := Skips.filler (.line mark _ ending oneLine ends) (shorter rest less)
      rw [← skipGap_filler (.line mark _ ending oneLine ends), whole] at skipped
      exact skipped

theorem skips_of_slash {behind : List Char}
    (shorter : ∀ rest : List Char, rest.length < behind.length + 1 → Skips rest (skipGap rest)) :
    Skips ('/' :: behind) (skipGap ('/' :: behind)) := by
  rcases behind with _ | ⟨d, inside⟩
  · exact skips_of_solid rfl
  by_cases line : d = '/'
  · subst line
    exact skips_of_mark .slashes fun rest less => shorter rest (by simp; omega)
  by_cases block : d = '*'
  · subst block
    cases closed : afterComment? inside with
    | none => exact skips_of_solid (skipGap_block_open closed)
    | some behind =>
        obtain ⟨within, plain, rfl⟩ := exists_inside_of_afterComment? closed
        have skipped := Skips.filler (.block within plain) (shorter behind (by simp; omega))
        rw [← skipGap_filler (.block within plain)] at skipped
        simpa [Filler.chars] using skipped
  · exact skips_of_solid (by simp [skipGap, skipGapFrom, line, block, isGapBlank])

/-- **What is skipped is a run of fillers.** -/
theorem skips_skipGap (text : List Char) : Skips text (skipGap text) := by
  -- on the length, since a filler takes any number of characters
  induction length : text.length using Nat.strong_induction_on generalizing text with
  | _ size ih =>
      have shorter : ∀ rest : List Char, rest.length < text.length → Skips rest (skipGap rest) :=
        fun rest less => ih rest.length (length ▸ less) rest rfl
      clear ih length
      cases text with
      | nil => exact skips_of_solid rfl
      | cons c rest =>
          by_cases blank : isGapBlank c = true
          · rw [skipGap_blank blank]
            exact .filler (.blank c blank) (shorter rest (by simp))
          by_cases hash : c = '#'
          · subst hash
            exact skips_of_mark .hash fun rest less => shorter rest (by simp; omega)
          by_cases slash : c = '/'
          · subst slash
            exact skips_of_slash shorter
          · exact skips_of_solid (by simp [skipGap, skipGapFrom, slash, hash, blank])

/-- What is left behind a gap is an ending of the text. -/
theorem skipGap_suffix (text : List Char) : skipGap text <:+ text := by
  have skipped := skips_skipGap text
  generalize skipGap text = left at skipped ⊢
  induction skipped with
  | filler filler _ ih => exact ih.trans (List.suffix_append ..)
  | lastLine => exact List.nil_suffix
  | stop => exact List.suffix_rfl

/-- Behind a gap nothing more can be skipped. -/
@[simp]
theorem skipGap_skipGap (text : List Char) : skipGap (skipGap text) = skipGap text := by
  have skipped := skips_skipGap text
  generalize skipGap text = left at skipped ⊢
  induction skipped with
  | filler _ _ ih => exact ih
  | lastLine => rfl
  | stop solid => exact solid

theorem skipSemicolon_of_semicolon {text rest : List Char} (semicolon : skipGap text = ';' :: rest) :
    skipSemicolon text = rest := by
  simp only [skipSemicolon, semicolon]

theorem skipSemicolon_of_ne {text : List Char} (other : ∀ rest, skipGap text ≠ ';' :: rest) :
    skipSemicolon text = skipGap text := by
  unfold skipSemicolon
  split
  · rename_i rest semicolon
    exact absurd semicolon (other rest)
  · rfl

theorem skipSemicolon_congr {text other : List Char} (same : skipGap text = skipGap other) :
    skipSemicolon text = skipSemicolon other := by
  rw [skipSemicolon, same, skipSemicolon]

theorem skipSemicolon_suffix (text : List Char) : skipSemicolon text <:+ text := by
  have behind := skipGap_suffix text
  by_cases semicolon : ∃ rest, skipGap text = ';' :: rest
  · obtain ⟨rest, stands⟩ := semicolon
    rw [skipSemicolon_of_semicolon stands]
    rw [stands] at behind
    exact (List.suffix_cons ';' rest).trans behind
  · rw [skipSemicolon_of_ne (not_exists.mp semicolon)]
    exact behind

/-! ## Solid text -/

/-- No gap begins with a blank. -/
theorem isGapBlank_of_solid {c : Char} {rest : List Char}
    (solid : skipGap (c :: rest) = c :: rest) : isGapBlank c = false := by
  by_contra blank
  have shorter := length_skipGap_le rest
  rw [Bool.not_eq_false] at blank
  rw [skipGap_blank blank] at solid
  rw [solid, List.length_cons] at shorter
  omega

/-- Where nothing can be skipped, no line comment begins. -/
theorem ne_mark_of_solid (mark : LineMark) (rest : List Char) :
    skipGap (mark.chars ++ rest) ≠ mark.chars ++ rest := by
  intro solid
  rw [skipGap_mark] at solid
  have shorter : (skipGapFrom .inLine rest).length ≤ rest.length :=
    length_skipGapFrom_le .inLine rest
  have marked : 0 < mark.chars.length := by cases mark <;> decide
  rw [solid, List.length_append] at shorter
  omega

/-- Where nothing can be skipped, a block comment is never closed. -/
theorem opensComment_of_solid {inside : List Char}
    (solid : skipGap ('/' :: '*' :: inside) = '/' :: '*' :: inside) :
    OpensComment ('/' :: '*' :: inside) := by
  refine ⟨inside, rfl, ?_⟩
  rw [← afterComment?_eq_none_iff]
  by_contra closed
  obtain ⟨rest, found⟩ := Option.ne_none_iff_exists'.mp closed
  rw [skipGap_block_closed found] at solid
  obtain ⟨within, -, rfl⟩ := exists_inside_of_afterComment? found
  have shorter := length_skipGap_le rest
  rw [solid] at shorter
  simp only [List.length_cons, List.length_append] at shorter
  omega

/-- A text that begins with a character of no gap is left alone. -/
theorem skipGap_eq_self {c : Char} (blank : isGapBlank c = false) (hash : c ≠ '#')
    (slash : c ≠ '/') (rest : List Char) : skipGap (c :: rest) = c :: rest := by
  simp [skipGap, skipGapFrom, slash, hash, blank]

/-! ## A tail on a new line -/

/-- A text that begins with the end of a line. -/
def BreaksLine (tail : List Char) : Prop :=
  ∃ c rest, tail = c :: rest ∧ endsLine c = true

/-- A text that has not ended and does not begin with a comment left open: there is something to
read. -/
structure Readable (text : List Char) : Prop where
  nonempty : text ≠ []
  closed : ¬ OpensComment text

theorem readable_cons {c : Char} (slash : c ≠ '/') (rest : List Char) : Readable (c :: rest) where
  nonempty := List.cons_ne_nil c rest
  closed := by
    rintro ⟨inside, same, -⟩
    exact slash (List.cons.inj same).1

variable {tail : List Char}

/-- A tail on a new line does not make a gap of solid text. -/
theorem skipGap_append_of_solid (breaks : BreaksLine tail) {text : List Char}
    (solid : skipGap text = text) (readable : Readable text) :
    skipGap (text ++ tail) = text ++ tail := by
  obtain ⟨ending, further, rfl, ends⟩ := breaks
  rcases text with _ | ⟨c, rest⟩
  · exact absurd rfl readable.nonempty
  have blank := isGapBlank_of_solid solid
  have hash : c ≠ '#' := by
    rintro rfl
    exact ne_mark_of_solid .hash rest solid
  by_cases slash : c = '/'
  · subst slash
    rcases rest with _ | ⟨d, inside⟩
    · have slash : ending ≠ '/' := by rintro rfl; cases ends
      have star : ending ≠ '*' := by rintro rfl; cases ends
      simp [skipGap, skipGapFrom, slash, star, isGapBlank]
    · have line : d ≠ '/' := by
        rintro rfl
        exact ne_mark_of_solid .slashes inside solid
      have block : d ≠ '*' := by
        rintro rfl
        exact readable.closed (opensComment_of_solid solid)
      simp [skipGap, skipGapFrom, line, block, isGapBlank]
  · exact skipGap_eq_self blank hash slash _

/-- **A tail on a new line leaves alone what is skipped before it.** If the text is a gap, skipping
goes on in the tail; otherwise it stops where it stopped without the tail. -/
theorem skipGap_append (breaks : BreaksLine tail) (text : List Char) :
    (skipGap text = [] → skipGap (text ++ tail) = skipGap tail) ∧
      (Readable (skipGap text) → skipGap (text ++ tail) = skipGap text ++ tail) := by
  have skipped := skips_skipGap text
  generalize skipGap text = left at skipped ⊢
  induction skipped with
  | filler filler _ ih =>
      rw [List.append_assoc, skipGap_filler]
      exact ih
  | lastLine mark oneLine =>
      refine ⟨fun _ => ?_, fun readable => absurd rfl readable.nonempty⟩
      obtain ⟨ending, further, rfl, ends⟩ := breaks
      rw [List.append_assoc, skipGap_mark, skipGapFrom_inLine_append oneLine,
        skipGapFrom_inLine_break ends, skipGap_blank (isGapBlank_of_endsLine ends)]
  | stop solid =>
      refine ⟨?_, skipGap_append_of_solid breaks solid⟩
      rintro rfl
      rfl

end RuleVocabulary.Header
