import RuleVocabulary.Proofs.Mapping.ReadBack

/-!
# Mapping files are read line by line

A line ends with a line feed, which may have a carriage return before it, and the last line may lack
its end (`lines`). A line says something unless it is blank or a comment (`Speaks`). Going through
the lines in order, each line that says something gives either one entry or one problem with its
number, the one that it gives as a text of its own, and the others give nothing (`Collects`).

A file is cut at line feeds alone when it is read. The lines then found differ from those of the
text by carriage returns at their ends, which are trimmed away, and by an empty line at the end
(`SameLines`), so both make up the same file (`ofText_eq_ofLines`).

Main statement: a file is what its lines come to one by one, nothing is lost, and a text that is put
together from two at a line feed has the entries and problems of both, those of the second one with
their numbers moved by the number of lines of the first one (`files_are_read_line_by_line`).
-/

set_option autoImplicit false

namespace RuleVocabulary

/-! ## Trailing blanks -/

namespace Text

/-- A blank behind a text is trimmed away. -/
theorem trim_append_blank {c : Char} (blank : isBlank c = true) (text : List Char) :
    trim (text ++ [c]) = trim text := by
  have behind : ∀ front, trimEnd (front ++ [c]) = trimEnd front := by
    intro front
    simp only [trimEnd, dropEndWhile, List.reverse_append, List.reverse_singleton,
      List.singleton_append, List.dropWhile_cons_of_pos blank]
  rw [trim, trim, trimStart, trimStart, List.dropWhile_append]
  split
  · rename_i all
    rw [List.isEmpty_iff] at all
    rw [all, List.dropWhile_cons_of_pos blank, List.dropWhile_nil]
  · exact behind _

end Text

namespace Mapping

/-! ## Lines of a text -/

/-- The lines of a text. A line ends with a line feed, which may have a carriage return before it;
the last line may lack its end. Any other carriage return belongs to its line. -/
def lines : List Char → List (List Char)
  | [] => []
  | '\n' :: rest => [] :: lines rest
  | '\r' :: '\n' :: rest => [] :: lines rest
  | c :: rest =>
    match lines rest with
    | line :: others => (c :: line) :: others
    | [] => [[c]]

/-- How the pieces between line feeds differ from the lines of a text: by carriage returns at their
ends, and by an empty piece behind the last line feed. -/
inductive SameLines : List (List Char) → List (List Char) → Prop where
  | nothing : SameLines [[]] []
  | last {line : List Char} : SameLines [line] [line]
  | same {line : List Char} {pieces others : List (List Char)} (rest : SameLines pieces others) :
      SameLines (line :: pieces) (line :: others)
  | returned {line : List Char} {pieces others : List (List Char)}
      (rest : SameLines pieces others) :
      SameLines ((line ++ ['\r']) :: pieces) (line :: others)

/-- A character in front belongs to the first line on both sides. -/
theorem SameLines.cons {piece line : List Char} {pieces others : List (List Char)}
    (same : SameLines (piece :: pieces) (line :: others)) (c : Char) :
    SameLines ((c :: piece) :: pieces) ((c :: line) :: others) := by
  cases same with
  | last => exact .last
  | same rest => exact .same rest
  | returned rest => exact @SameLines.returned (c :: line) _ _ rest

theorem sameLines_lines (text : List Char) : SameLines (cutLines text) (lines text) := by
  fun_induction lines text with
  | case1 => exact .nothing
  | case2 rest ih =>
      rw [cutLines_break]
      exact .same ih
  | case3 rest ih =>
      rw [cutLines_of_cons (by decide) (cutLines_break rest)]
      exact @SameLines.returned [] _ _ ih
  | case4 c rest inLine _ _ others cut ih =>
      obtain ⟨piece, pieces, cutPieces⟩ := exists_cutLines_eq_cons rest
      rw [cut, cutPieces] at ih
      rw [cutLines_of_cons inLine cutPieces]
      exact ih.cons c
  | case5 c rest inLine _ cut ih =>
      obtain ⟨piece, pieces, cutPieces⟩ := exists_cutLines_eq_cons rest
      rw [cut, cutPieces] at ih
      rw [cutLines_of_cons inLine cutPieces]
      cases ih
      exact .last

/-! ## What lines come to -/

/-- A line says something unless it is blank or starts with a comment mark. -/
def Speaks (line : List Char) : Prop :=
  Text.trim line ≠ [] ∧ ¬ ['#'] <+: Text.trim line ∧ ¬ ['/', '/'] <+: Text.trim line

instance : DecidablePred Speaks :=
  fun _ => inferInstanceAs (Decidable (_ ∧ ¬ _ <+: _ ∧ ¬ _ <+: _))

/-- What lines come to that stand behind each other, the first of which has the given number. -/
inductive Collects : Nat → List (List Char) → List Entry → List Problem → Prop where
  | nothing {number : Nat} : Collects number [] [] []
  | silent {number : Nat} {line : List Char} {others : List (List Char)} {entries : List Entry}
      {problems : List Problem} (silent : ¬ Speaks line)
      (rest : Collects (number + 1) others entries problems) :
      Collects number (line :: others) entries problems
  | entry {number : Nat} {line : List Char} {others : List (List Char)} {entries : List Entry}
      {problems : List Problem} {entry : Entry} (speaks : Speaks line)
      (alone : File.ofText (String.ofList line) = ⟨[entry], []⟩)
      (rest : Collects (number + 1) others entries problems) :
      Collects number (line :: others) (entry :: entries) problems
  | problem {number : Nat} {line : List Char} {others : List (List Char)} {entries : List Entry}
      {problems : List Problem} {cause : Cause} (speaks : Speaks line)
      (alone : File.ofText (String.ofList line) = ⟨[], [⟨1, cause⟩]⟩)
      (rest : Collects (number + 1) others entries problems) :
      Collects number (line :: others) entries (⟨number, cause⟩ :: problems)

/-- A problem names one of the lines behind each other, the first of which has the given number, and
this line gives the problem as a text of its own. -/
def Problem.Names (problem : Problem) (number : Nat) (text : List (List Char)) : Prop :=
  ∃ index line, problem.line = number + index ∧ text[index]? = some line ∧ Speaks line ∧
    File.ofText (String.ofList line) = ⟨[], [⟨1, problem.cause⟩]⟩

theorem Problem.Names.cons {problem : Problem} {number : Nat} {others : List (List Char)}
    (names : problem.Names (number + 1) others) (line : List Char) :
    problem.Names number (line :: others) := by
  obtain ⟨index, one, placed, listed, speaks⟩ := names
  refine ⟨index + 1, one, ?_, ?_, speaks⟩
  · rw [placed, Nat.add_assoc, Nat.add_comm 1]
  · rwa [List.getElem?_cons_succ]

namespace Collects

variable {number : Nat} {text : List (List Char)} {entries : List Entry} {problems : List Problem}

/-- Each line that says something gives one entry or one problem. -/
theorem length_add_length (collects : Collects number text entries problems) :
    entries.length + problems.length = (text.filter Speaks).length := by
  induction collects with
  | nothing => rfl
  | silent silent _ ih => rw [List.filter_cons_of_neg (by simpa using silent), ih]
  | entry speaks _ _ ih =>
      rw [List.filter_cons_of_pos (by simpa using speaks), List.length_cons, List.length_cons, ← ih]
      omega
  | problem speaks _ _ ih =>
      rw [List.filter_cons_of_pos (by simpa using speaks), List.length_cons, List.length_cons, ← ih]
      omega

theorem names (collects : Collects number text entries problems) :
    ∀ problem ∈ problems, problem.Names number text := by
  induction collects with
  | nothing => simp
  | silent _ _ ih => exact fun problem member => (ih problem member).cons _
  | entry _ _ _ ih => exact fun problem member => (ih problem member).cons _
  | problem speaks alone _ ih =>
      intro problem member
      rcases List.mem_cons.mp member with rfl | later
      · exact ⟨0, _, rfl, rfl, speaks, alone⟩
      · exact (ih problem later).cons _

/-- The problems are in the order of their lines, and no two have the same line. -/
theorem pairwise_line (collects : Collects number text entries problems) :
    problems.Pairwise fun first second => first.line < second.line := by
  induction collects with
  | nothing => exact .nil
  | silent _ _ ih => exact ih
  | entry _ _ _ ih => exact ih
  | @problem number _ _ _ _ _ _ _ rest ih =>
      refine .cons (fun later member => ?_) ih
      obtain ⟨index, -, placed, -⟩ := rest.names later member
      show number < later.line
      omega

end Collects

/-! ## One line -/

theorem isComment_iff (text : List Char) :
    isComment text = true ↔ ['#'] <+: text ∨ ['/', '/'] <+: text := by
  unfold isComment
  split
  · simp
  · simp
  · rename_i noHash noSlashes
    refine iff_of_false Bool.false_ne_true ?_
    rintro (⟨rest, rfl⟩ | ⟨rest, rfl⟩)
    · exact noHash rest rfl
    · exact noSlashes rest rfl

theorem speaks_iff (line : List Char) :
    Speaks line ↔ ((Text.trim line).isEmpty || isComment (Text.trim line)) = false := by
  rw [Bool.or_eq_false_iff, Bool.eq_false_iff, Bool.eq_false_iff, Ne, Ne, List.isEmpty_iff,
    isComment_iff, not_or]
  rfl

theorem Line.read_of_not_speaks {line : List Char} (silent : ¬ Speaks line) :
    Line.read line = .silent := by
  rw [speaks_iff, Bool.not_eq_false] at silent
  rw [Line.read, if_pos silent]

/-- A line that says something gives an entry or a problem. -/
theorem Line.read_of_speaks {line : List Char} (speaks : Speaks line) :
    (∃ entry, Line.read line = .entry entry) ∨ ∃ cause, Line.read line = .broken cause := by
  rw [speaks_iff] at speaks
  rw [Line.read]
  simp only [speaks, Bool.false_eq_true, if_false]
  split
  · exact .inr ⟨_, rfl⟩
  split
  · exact .inr ⟨_, rfl⟩
  · exact .inl ⟨_, rfl⟩

/-- A carriage return at the end of a line does not count. -/
theorem Line.read_append_return (line : List Char) :
    Line.read (line ++ ['\r']) = Line.read line := by
  rw [Line.read, Line.read, Text.trim_append_blank (by decide)]

/-! ## Lines behind each other -/

namespace File

theorem ofLines_cons (number : Nat) (line : Line) (others : List Line) :
    ofLines number (line :: others) =
      ⟨[line].filterMap entry? ++ (ofLines (number + 1) others).entries,
        [(line, number)].filterMap problem? ++ (ofLines (number + 1) others).problems⟩ := by
  cases line <;> rfl

theorem ofLines_append (number : Nat) (first second : List Line) :
    ofLines number (first ++ second) =
      ⟨(ofLines number first).entries ++ (ofLines (number + first.length) second).entries,
        (ofLines number first).problems ++ (ofLines (number + first.length) second).problems⟩ := by
  simp only [ofLines, List.filterMap_append, List.zipIdx_append]

end File

/-- A problem with its line moved down. -/
def Problem.moved (count : Nat) (problem : Problem) : Problem :=
  { problem with line := problem.line + count }

namespace File

/-- Lines further down have the same entries, and the same problems further down. -/
theorem ofLines_add (number count : Nat) (text : List Line) :
    ofLines (number + count) text =
      ⟨(ofLines number text).entries, (ofLines number text).problems.map (.moved count)⟩ := by
  induction text generalizing number with
  | nil => rfl
  | cons line others ih =>
      rw [ofLines_cons, ofLines_cons, Nat.add_right_comm, ih]
      cases line <;> rfl

theorem ofLines_of_sameLines {pieces text : List (List Char)} (same : SameLines pieces text)
    (number : Nat) :
    ofLines number (pieces.map Line.read) = ofLines number (text.map Line.read) := by
  induction same generalizing number with
  | nothing => rfl
  | last => rfl
  | same _ ih => rw [List.map_cons, List.map_cons, ofLines_cons, ofLines_cons, ih]
  | returned _ ih =>
      rw [List.map_cons, List.map_cons, Line.read_append_return, ofLines_cons, ofLines_cons, ih]

/-- **A file is what the lines of its text make up.** -/
theorem ofText_eq_ofLines (text : String) :
    ofText text = ofLines 1 ((lines text.toList).map Line.read) :=
  ofLines_of_sameLines (sameLines_lines text.toList) 1

/-- A line makes up a file as a text of its own. -/
theorem ofText_line {line : List Char} (oneLine : '\n' ∉ line) :
    ofText (String.ofList line) = ofLines 1 [Line.read line] := by
  rw [ofText, String.toList_ofList, cutLines_of_not_mem oneLine, List.map_singleton]

/-- **Lines that are read one by one come to what each of them gives.** -/
theorem collects_ofLines {text : List (List Char)} (oneLine : ∀ line ∈ text, '\n' ∉ line)
    (number : Nat) :
    Collects number text (ofLines number (text.map Line.read)).entries
      (ofLines number (text.map Line.read)).problems := by
  induction text generalizing number with
  | nil => exact .nothing
  | cons line others ih =>
      have rest := ih (fun one member => oneLine one (List.mem_cons_of_mem _ member)) (number + 1)
      have alone := ofText_line (oneLine line (List.mem_cons_self ..))
      rw [List.map_cons, ofLines_cons]
      by_cases speaks : Speaks line
      · rcases Line.read_of_speaks speaks with ⟨entry, read⟩ | ⟨cause, read⟩
        · rw [read] at alone ⊢
          exact .entry speaks alone rest
        · rw [read] at alone ⊢
          exact .problem speaks alone rest
      · rw [Line.read_of_not_speaks speaks]
        exact .silent speaks rest

end File

theorem not_mem_of_mem_lines (text : List Char) : ∀ line ∈ lines text, '\n' ∉ line := by
  fun_induction lines text with
  | case1 => simp
  | case2 rest ih => simpa using ih
  | case3 rest ih => simpa using ih
  | case4 c rest inLine _ line others cut ih =>
      rw [cut] at ih
      simp only [List.forall_mem_cons] at ih ⊢
      exact ⟨List.not_mem_cons_of_ne_of_not_mem (Ne.symm inLine) ih.1, ih.2⟩
  | case5 c rest inLine _ cut ih => simpa using Ne.symm inLine

theorem length_cutLines (text : List Char) : (cutLines text).length = 1 + text.count '\n' := by
  induction text with
  | nil => rfl
  | cons c rest ih =>
      by_cases break' : c = '\n'
      · subst break'
        rw [cutLines_break, List.length_cons, ih, List.count_cons_self]
        omega
      · obtain ⟨line, others, cut⟩ := exists_cutLines_eq_cons rest
        rw [cut] at ih
        rw [cutLines_of_cons break' cut, List.count_cons_of_ne break', ← ih]
        rfl

/-- **A mapping file is read line by line.** -/
theorem files_are_read_line_by_line (text : String) :
    Collects 1 (lines text.toList) (File.ofText text).entries (File.ofText text).problems ∧
    (File.ofText text).entries.length + (File.ofText text).problems.length =
      ((lines text.toList).filter Speaks).length ∧
    (File.ofText text).problems.Pairwise (fun first second => first.line < second.line) ∧
    (∀ problem ∈ (File.ofText text).problems, problem.Names 1 (lines text.toList) ∧
      ∃ complaint, problem.message = "line " ++ toString problem.line ++ ": " ++ complaint) ∧
    ∀ other : String, File.ofText (text ++ "\n" ++ other) =
      ⟨(File.ofText text).entries ++ (File.ofText other).entries,
        (File.ofText text).problems ++
          (File.ofText other).problems.map (.moved (1 + text.toList.count '\n'))⟩ := by
  have collects : Collects 1 (lines text.toList) (File.ofText text).entries
      (File.ofText text).problems := by
    rw [File.ofText_eq_ofLines]
    exact File.collects_ofLines (not_mem_of_mem_lines text.toList) 1
  refine ⟨collects, collects.length_add_length, collects.pairwise_line, ?_, ?_⟩
  · intro problem member
    exact ⟨collects.names problem member, _, rfl⟩
  · intro other
    have cut : cutLines (text ++ "\n" ++ other).toList =
        cutLines text.toList ++ cutLines other.toList := by
      rw [String.toList_append, String.toList_append, List.append_assoc]
      exact cutLines_append text.toList other.toList
    rw [File.ofText, File.ofText, File.ofText, cut, List.map_append, File.ofLines_append,
      List.length_map, length_cutLines, File.ofLines_add 1]

/-- Line ends of both kinds, a comment and a blank line are counted; a carriage return alone is
not. -/
example : File.ofText "[*]a=b\r\n# c\n\n?\r=" =
    ⟨[⟨.any, "", "a", "b"⟩], [⟨4, .unrecognized "?\r="⟩]⟩ := by
  decide +kernel

end Mapping

end RuleVocabulary
