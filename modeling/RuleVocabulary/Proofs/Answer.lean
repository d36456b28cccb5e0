/-!
# Answers of steps that may fail

A sequence of steps ends well exactly if each of its steps does. The two lemmas take such a
sequence apart without opening the steps.
-/

set_option autoImplicit false

namespace RuleVocabulary

variable {ε α β : Type}

theorem bind_eq_ok_iff {first : Except ε α} {next : α → Except ε β} {result : β} :
    first >>= next = .ok result ↔ ∃ value, first = .ok value ∧ next value = .ok result := by
  cases first with
  | error fault => exact iff_of_false nofun nofun
  | ok value =>
      constructor
      · intro done
        exact ⟨value, rfl, done⟩
      · rintro ⟨other, same, done⟩
        obtain rfl := Except.ok.inj same
        exact done

theorem map_eq_ok_iff {change : α → β} {first : Except ε α} {result : β} :
    first.map change = .ok result ↔ ∃ value, first = .ok value ∧ change value = result := by
  cases first with
  | error fault => exact iff_of_false nofun nofun
  | ok value =>
      constructor
      · intro done
        exact ⟨value, rfl, Except.ok.inj done⟩
      · rintro ⟨other, same, rfl⟩
        obtain rfl := Except.ok.inj same
        rfl

end RuleVocabulary
