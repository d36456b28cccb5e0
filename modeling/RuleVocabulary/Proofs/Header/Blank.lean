import Mathlib.Data.List.TakeWhile
import RuleVocabulary.Header.Package

/-!
# Headers of nothing but blanks

Between the tokens of a header only four characters are blanks, and a text may be trimmed of more
than these. So a header that is blank as a text may still be more than a gap. What is left of it is
read as statements that cannot be recognized, for every other form begins with a letter or a
semicolon (`unrecognized_of_readStatement`).

Main statement: a blank header declares nothing, whatever problems it has (`package_of_blank`).
-/

set_option autoImplicit false

namespace RuleVocabulary

namespace Text

/-- A text of which nothing is left when it is trimmed holds blanks only. -/
theorem isBlank_of_trim_eq_nil {text : List Char} (blank : trim text = []) :
    ∀ c ∈ text, isBlank c = true := by
  have rest : ∀ c ∈ text.dropWhile isBlank, isBlank c = true := by
    rw [trim, trimEnd, dropEndWhile, List.reverse_eq_nil_iff, List.dropWhile_eq_nil_iff] at blank
    exact fun c member => blank c (List.mem_reverse.mpr member)
  intro c member
  rw [← List.takeWhile_append_dropWhile (p := isBlank) (l := text), List.mem_append] at member
  rcases member with front | behind
  · exact List.all_eq_true.mp List.all_takeWhile c front
  · exact rest c behind

end Text

namespace Header

variable {text : List Char}

/-- What stands before the first word of a blank text is dropped from its front, if anything is. -/
theorem skipGap_suffix_of_blank (blank : ∀ c ∈ text, Text.isBlank c = true) :
    skipGap text <:+ text := by
  induction text with
  | nil => exact List.suffix_rfl
  | cons c rest ih =>
      have behind : ∀ d ∈ rest, Text.isBlank d = true :=
        fun d member => blank d (List.mem_cons_of_mem _ member)
      have slash : c ≠ '/' := by
        rintro rfl
        exact absurd (blank '/' (List.mem_cons_self ..)) (by decide)
      have hash : c ≠ '#' := by
        rintro rfl
        exact absurd (blank '#' (List.mem_cons_self ..)) (by decide)
      by_cases gap : isGapBlank c = true
      · have skipped : skipGap (c :: rest) = skipGap rest := by
          simp [skipGap, skipGapFrom, slash, hash, gap]
        rw [skipped]
        exact (ih behind).trans (List.suffix_cons c rest)
      · have stopped : skipGap (c :: rest) = c :: rest := by
          simp [skipGap, skipGapFrom, slash, hash, gap]
        exact ⟨[], stopped⟩

/-- No keyword begins with a blank. -/
theorem keyword?_of_blank (blank : ∀ c ∈ text, Text.isBlank c = true) (keyword : Keyword) :
    keyword? keyword text = none := by
  have lettered : ∀ c, keyword.spelling.head? = some c → Text.isBlank c = false := by
    intro c first
    cases keyword <;> (cases first; rfl)
  have spelled : keyword.spelling ≠ [] := by
    cases keyword <;> decide
  have missed : dropFront? keyword.spelling text = none := by
    cases spelling : keyword.spelling with
    | nil => exact absurd spelling spelled
    | cons letter letters =>
        cases text with
        | nil => rfl
        | cons c rest =>
            have differs : letter ≠ c := by
              rintro rfl
              have plain := lettered letter (by rw [spelling]; rfl)
              rw [blank letter (List.mem_cons_self ..)] at plain
              cases plain
            rw [dropFront?, if_neg differs]
  rw [keyword?, missed]

/-- Of a blank text no statement can be recognized. What follows is a part of the text. -/
theorem unrecognized_of_readStatement (blank : ∀ c ∈ text, Text.isBlank c = true)
    {statement : Statement} {rest : List Char}
    (found : readStatement text = some (statement, rest)) :
    (∃ part, statement = .unrecognized part) ∧ rest ⊆ text := by
  have semicolon : readEmpty text = none := by
    cases text with
    | nil => rfl
    | cons c rest =>
        have differs : c ≠ ';' := by
          rintro rfl
          exact absurd (blank ';' (List.mem_cons_self ..)) (by decide)
        simp [readEmpty, differs]
  have only : readStatement text = readUnrecognized text := by
    simp [readStatement, readPackage, readFunctionImport, readTypeImport, readGlobal, readTemplate,
      readDirective, keyword?_of_blank blank, semicolon]
  rw [only] at found
  have whole := unrecognizedPart_append text
  unfold readUnrecognized at found
  split at found
  · cases found
  · rename_i part last _ cut
    cases found
    refine ⟨⟨_, rfl⟩, ?_⟩
    rw [← whole, cut]
    exact List.Subset.trans (List.subset_cons_self ..) (List.subset_append_right ..)
  · rename_i part last _ _ cut
    cases found
    refine ⟨⟨_, rfl⟩, ?_⟩
    rw [← whole, cut]
    exact List.subset_append_right ..

/-- A blank text is an outline of statements that cannot be recognized. -/
theorem unrecognized_of_outline (blank : ∀ c ∈ text, Text.isBlank c = true) :
    ∀ located ∈ (outline text).1, ∃ part, located.statement = .unrecognized part := by
  fun_induction outline text with
  | case1 text statement rest found shorter more ih =>
      have front : ∀ c ∈ skipGap text, Text.isBlank c = true :=
        fun c member => blank c ((skipGap_suffix_of_blank blank).subset member)
      obtain ⟨own, behind⟩ := unrecognized_of_readStatement front found
      intro located member
      rcases List.mem_cons.mp member with rfl | later
      · exact own
      · exact ih (fun c here => front c (behind here)) located later
  | case2 text missing => exact nofun

/-- **A blank header declares nothing.** -/
theorem package_of_blank {header : String} {reading : Reading}
    (blank : Text.trim header.toList = []) (read : Reading.ofText header = .ok reading) :
    reading.package = ⟨none, [], [], [], []⟩ := by
  have silent : ∀ statement ∈ (outline header.toList).1.map Located.statement,
      ∃ part, statement = .unrecognized part := by
    intro statement member
    obtain ⟨located, here, rfl⟩ := List.mem_map.mp member
    exact unrecognized_of_outline (Text.isBlank_of_trim_eq_nil blank) located here
  unfold Reading.ofText Reading.ofChars at read
  simp only at read
  split at read
  · cases read
    have none : ∀ {α : Type} (part? : Statement → Option α),
        (∀ part, part? (.unrecognized part) = .none) →
        ((outline header.toList).1.map Located.statement).filterMap part? = [] := by
      intro α part? ignored
      rw [List.filterMap_eq_nil_iff]
      intro statement member
      obtain ⟨part, rfl⟩ := silent statement member
      exact ignored part
    rw [Package.ofStatements, none Statement.packageName? fun _ => rfl,
      none Statement.typeImport? fun _ => rfl, none Statement.functionImport? fun _ => rfl,
      none Statement.global? fun _ => rfl, none Statement.template? fun _ => rfl]
    rfl
  · cases read

end Header

end RuleVocabulary
