import RuleVocabulary.Text.Utf8

/-!
# Encoded text

The bytes that can be decoded are the encodings of texts (`decode?_eq_some_iff`), and bytes below
`0x80` stand for one character each (`decode?_ascii`). What follows such a byte in an encoded text
is the start of a character, so it is below `0x80` again or at least `0xC0`
(`startsChar_behind_ascii`).
-/

set_option autoImplicit false

namespace RuleVocabulary.Text.Utf8

theorem encode_ofList (text : List Char) :
    encode (String.ofList text) = text.flatMap String.utf8EncodeChar := by
  rw [encode, String.toByteArray_ofList, List.utf8Encode, List.data_toByteArray]

theorem encode_eq_flatMap (text : String) :
    encode text = text.toList.flatMap String.utf8EncodeChar := by
  rw [← encode_ofList, String.ofList_toList]

/-- **Bytes are decoded exactly to the text that they encode.** -/
theorem decode?_eq_some_iff {bytes : List UInt8} {text : String} :
    decode? bytes = some text ↔ bytes = encode text := by
  constructor
  · intro decoded
    unfold decode? String.fromUTF8? at decoded
    split at decoded
    · obtain rfl := Option.some.inj decoded
      rfl
    · cases decoded
  · rintro rfl
    exact decode?_encode text

/-! ## Single bytes -/

/-- The first byte of a character is below `0x80`, and then it is the whole character, or it is at
least `0xC0`. -/
theorem utf8EncodeChar_cases (c : Char) :
    (c.toNat < 0x80 ∧ String.utf8EncodeChar c = [UInt8.ofNat c.toNat]) ∨
      ∃ first rest, String.utf8EncodeChar c = first :: rest ∧ 0xC0 ≤ first.toNat := by
  fun_cases String.utf8EncodeChar c with
  | case1 _ small => exact .inl ⟨Nat.lt_succ_of_le small, rfl⟩
  | case2 =>
      refine .inr ⟨_, _, rfl, ?_⟩
      rw [UInt8.toNat_ofNat']
      omega
  | case3 =>
      refine .inr ⟨_, _, rfl, ?_⟩
      rw [UInt8.toNat_ofNat']
      omega
  | case4 =>
      refine .inr ⟨_, _, rfl, ?_⟩
      rw [UInt8.toNat_ofNat']
      omega

theorem head_encode (text : List Char) :
    ∀ byte ∈ (text.flatMap String.utf8EncodeChar).head?, byte.toNat < 0x80 ∨ 0xC0 ≤ byte.toNat := by
  intro byte here
  cases text with
  | nil => cases here
  | cons c text =>
      rw [List.flatMap_cons] at here
      rcases utf8EncodeChar_cases c with ⟨small, one⟩ | ⟨first, rest, more, large⟩
      · rw [one] at here
        obtain rfl := Option.some.inj here
        refine .inl ?_
        rw [UInt8.toNat_ofNat']
        omega
      · rw [more] at here
        obtain rfl := Option.some.inj here
        exact .inr large

/-- **Behind a byte below `0x80` starts a character.** -/
theorem startsChar_behind_ascii {text : String} {byte : UInt8} {rest : List UInt8}
    (encoded : encode text = byte :: rest) (small : byte.toNat < 0x80) :
    ∀ next ∈ rest.head?, next.toNat < 0x80 ∨ 0xC0 ≤ next.toNat := by
  rw [encode_eq_flatMap] at encoded
  cases parts : text.toList with
  | nil =>
      rw [parts] at encoded
      cases encoded
  | cons c behind =>
      rw [parts, List.flatMap_cons] at encoded
      rcases utf8EncodeChar_cases c with ⟨-, one⟩ | ⟨first, more, long, large⟩
      · rw [one] at encoded
        obtain ⟨-, rfl⟩ := List.cons.inj encoded
        exact head_encode behind
      · rw [long] at encoded
        obtain ⟨rfl, -⟩ := List.cons.inj encoded
        omega

/-- Bytes below `0x80` stand for a character each. -/
theorem decode?_ascii {bytes : List UInt8} (small : ∀ byte ∈ bytes, byte.toNat < 0x80) :
    decode? bytes = some (String.ofList (bytes.map fun byte => Char.ofNat byte.toNat)) := by
  rw [decode?_eq_some_iff, encode_ofList]
  induction bytes with
  | nil => rfl
  | cons byte bytes ih =>
      have own : byte.toNat < 0x80 := small byte (List.mem_cons_self ..)
      have code : (Char.ofNat byte.toNat).val.toNat = byte.toNat := by
        rw [Char.ofNat, dif_pos (.inl (by omega))]
        rfl
      have one : String.utf8EncodeChar (Char.ofNat byte.toNat) = [byte] := by
        simp only [String.utf8EncodeChar, code]
        rw [if_pos (Nat.le_of_lt_succ own), UInt8.ofNat_toNat]
      rw [List.map_cons, List.flatMap_cons, one]
      exact congrArg (byte :: ·) (ih fun other member => small other (List.mem_cons_of_mem _ member))

end RuleVocabulary.Text.Utf8
