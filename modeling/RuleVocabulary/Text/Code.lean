import RuleVocabulary.Decimal.Reading

/-!
# Characters by their codes

Notations that cannot hold a character as it is write its code in hexadecimal digits. Neither the
codes of surrogates nor those beyond the last plane stand for a character.
-/

set_option autoImplicit false

namespace RuleVocabulary.Text

/-- The character with the code that hexadecimal digits write. -/
def charOfHex? (digits : List Char) : Option Char :=
  let code := Decimal.value 16 digits
  if digits.all (Decimal.isDigitOf 16) && (Char.ofNat code).toNat = code then
    some (Char.ofNat code)
  else none

/-- The character at the front of a text, written with the given number of digits, and what follows
it. -/
def readHexChar (count : Nat) (text : List Char) : Option (Char × List Char) :=
  if text.length < count then none
  else (charOfHex? (text.take count)).map (·, text.drop count)

theorem length_readHexChar_le {count : Nat} {text rest : List Char} {c : Char}
    (read : readHexChar count text = some (c, rest)) : rest.length ≤ text.length := by
  unfold readHexChar at read
  split at read
  · simp at read
  · obtain ⟨_, -, -, rfl⟩ := by simpa using read
    simp only [List.length_drop]
    omega

end RuleVocabulary.Text
