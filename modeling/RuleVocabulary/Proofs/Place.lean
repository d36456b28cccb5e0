import Mathlib.Data.List.Count
import Mathlib.Data.List.Induction
import RuleVocabulary.Text.Place

/-!
# Places on lower lines

Passing a text moves on line by line, and the place reached tells the line feeds passed and the
characters behind the last of them (`past_eq`). So what is passed on a line of its own ends in the
column where it would end alone, and lower by the lines before it (`past_below`). Places are
ordered as they come in a text, by line and then by column, and passing more of a text leads to a
later place (`past_lt_append`). Therefore no two endings of a text begin at one place.
-/

set_option autoImplicit false

namespace RuleVocabulary.Text.Place

/-! ## Lines -/

/-- The place that many lines further down. -/
def lowered (place : Place) (lines : Nat) : Place :=
  ⟨place.line + lines, place.column⟩

theorem lowered_injective {lines : Nat} {first second : Place}
    (same : first.lowered lines = second.lowered lines) : first = second := by
  obtain ⟨line, column⟩ := first
  obtain ⟨line', column'⟩ := second
  obtain ⟨lower, rfl⟩ := Place.mk.inj same
  obtain rfl := Nat.add_right_cancel lower
  rfl

theorem next_lowered (place : Place) (lines : Nat) (c : Char) :
    (place.lowered lines).next c = (place.next c).lowered lines := by
  by_cases feed : c = '\n'
  · simp only [next, lowered, if_pos feed, Nat.add_right_comm]
  · simp only [next, lowered, if_neg feed]

theorem foldl_next_lowered (text : List Char) (place : Place) (lines : Nat) :
    text.foldl next (place.lowered lines) = (text.foldl next place).lowered lines := by
  induction text generalizing place with
  | nil => rfl
  | cons c rest ih => rw [List.foldl_cons, List.foldl_cons, next_lowered, ih]

/-- Every line feed passed is a line. -/
theorem line_foldl_next (text : List Char) (place : Place) :
    (text.foldl next place).line = place.line + text.count '\n' := by
  induction text generalizing place with
  | nil => rfl
  | cons c rest ih =>
      rw [List.foldl_cons, ih, List.count_cons]
      by_cases feed : c = '\n'
      · subst feed
        simp [next]
        omega
      · simp [next, feed]

theorem line_past (text : List Char) : (past text).line = text.count '\n' + 1 := by
  rw [past, line_foldl_next, start, Nat.add_comm]

/-- **A place counts lines and characters**: the line feeds that have been passed, and what has been
passed since the last of them. -/
theorem past_eq (text : List Char) :
    past text = ⟨text.count '\n' + 1, (text.reverse.takeWhile (· ≠ '\n')).length + 1⟩ := by
  induction text using List.reverseRecOn with
  | nil => rfl
  | append_singleton text c ih =>
      rw [past_append, List.foldl_cons, List.foldl_nil, ih, List.count_append,
        List.reverse_concat, List.takeWhile_cons]
      by_cases feed : c = '\n'
      · simp [next, feed]
      · simp [next, feed]

/-- **A text that begins on a line of its own is passed as if it stood alone, only lower.** -/
theorem past_below (before text : List Char) :
    past (before ++ '\n' :: text) = (past text).lowered (before.count '\n' + 1) := by
  have below : (past before).next '\n' = start.lowered (before.count '\n' + 1) := by
    simp [next, lowered, start, line_past]
    omega
  rw [past_append, List.foldl_cons, below, foldl_next_lowered, past]

/-! ## The order of places -/

/-- Before another place on its line, or on a line above it. -/
instance : LT Place :=
  ⟨fun first second => first.line < second.line ∨
    first.line = second.line ∧ first.column < second.column⟩

theorem lt_iff {first second : Place} :
    first < second ↔ first.line < second.line ∨
      first.line = second.line ∧ first.column < second.column :=
  Iff.rfl

/-- At another place or before it. -/
instance : LE Place :=
  ⟨fun first second => first = second ∨ first < second⟩

theorem le_iff {first second : Place} : first ≤ second ↔ first = second ∨ first < second :=
  Iff.rfl

theorem lt_irrefl (place : Place) : ¬ place < place := by
  rw [lt_iff]
  omega

theorem lt_trans {first second third : Place} (one : first < second) (other : second < third) :
    first < third := by
  rw [lt_iff] at one other ⊢
  omega

theorem lt_next (place : Place) (c : Char) : place < place.next c := by
  rw [lt_iff]
  by_cases feed : c = '\n'
  · simp [next, feed]
  · simp [next, feed]

theorem lt_foldl_next {text : List Char} (more : text ≠ []) (place : Place) :
    place < text.foldl next place := by
  induction text generalizing place with
  | nil => exact absurd rfl more
  | cons c rest ih =>
      rw [List.foldl_cons]
      by_cases last : rest = []
      · subst last
        exact lt_next place c
      · exact lt_trans (lt_next place c) (ih last _)

/-- **Passing more of a text leads to a later place.** -/
theorem past_lt_append (before : List Char) {more : List Char} (nonempty : more ≠ []) :
    past before < past (before ++ more) := by
  rw [past_append]
  exact lt_foldl_next nonempty (past before)

/-- Of two endings of a text the shorter one begins later. -/
theorem ofRest_lt_of_suffix {text first second : List Char} (within : first <:+ text)
    (behind : second <:+ first) (shorter : second.length < first.length) :
    ofRest text first < ofRest text second := by
  obtain ⟨before, rfl⟩ := within
  obtain ⟨passed, rfl⟩ := behind
  have nonempty : passed ≠ [] := by
    rintro rfl
    exact Nat.lt_irrefl _ shorter
  rw [ofRest_append, ← List.append_assoc, ofRest_append]
  exact past_lt_append before nonempty

theorem past_le_append (before more : List Char) : past before ≤ past (before ++ more) := by
  rw [le_iff]
  by_cases empty : more = []
  · exact .inl (by rw [empty, List.append_nil])
  · exact .inr (past_lt_append before empty)

end RuleVocabulary.Text.Place
