import RuleVocabulary.Text.Utf8
import RuleVocabulary.Json.Failure

/-!
# Strings of a JSON text

A string is read as bytes: escapes are replaced by what they stand for, everything else is kept,
and only at the closing quote the result is checked to be well-formed text. A string whose value
nobody wants is passed by `skipString`, which looks at its syntax alone. In the other direction
`quote` writes a text as a string. Main statement: a written string is read back
(`readString_quote`).
-/

set_option autoImplicit false

namespace RuleVocabulary.Json

open RuleVocabulary.Text

/-- The value of a hexadecimal digit. -/
def hexValue? (byte : UInt8) : Option Nat :=
  if 0x30 ≤ byte && byte ≤ 0x39 then some (byte.toNat - 0x30)
  else if 0x61 ≤ byte && byte ≤ 0x66 then some (byte.toNat - 0x57)
  else if 0x41 ≤ byte && byte ≤ 0x46 then some (byte.toNat - 0x37)
  else none

/-- Reads four hexadecimal digits. -/
def readHex : List UInt8 → Read Nat
  | a :: b :: c :: d :: rest =>
    match hexValue? a, hexValue? b, hexValue? c, hexValue? d with
    | some a, some b, some c, some d => .ok (((a * 16 + b) * 16 + c) * 16 + d, rest)
    | _, _, _, _ => fail .invalidEscape rest
  | _ => fail .endInString []

/-- The byte that a one-letter escape stands for. -/
def shortEscape? (letter : UInt8) : Option UInt8 :=
  if letter = 0x22 || letter = 0x5C || letter = 0x2F then some letter
  else if letter = 0x62 then some 0x08
  else if letter = 0x66 then some 0x0C
  else if letter = 0x6E then some 0x0A
  else if letter = 0x72 then some 0x0D
  else if letter = 0x74 then some 0x09
  else none

/-- The bytes of a code point. -/
def codePointBytes (code : Nat) : List UInt8 :=
  String.utf8EncodeChar (Char.ofNat code)

/-- Reads a code point behind `\u`. One beyond the first plane is written as two escapes. -/
def readCodePoint (text : List UInt8) : Read (List UInt8) :=
  match readHex text with
  | .error failure => .error failure
  | .ok (first, rest) =>
    if first < 0xD800 || 0xDFFF < first then .ok (codePointBytes first, rest)
    else if 0xDC00 ≤ first then fail .loneSurrogate rest
    else
      match rest with
      | [] => fail .endInString []
      | 0x5C :: [] => fail .endInString []
      | 0x5C :: 0x75 :: second =>
        match readHex second with
        | .error failure => .error failure
        | .ok (last, behind) =>
          if 0xDC00 ≤ last && last ≤ 0xDFFF then
            .ok (codePointBytes (0x10000 + (first - 0xD800) * 0x400 + (last - 0xDC00)), behind)
          else fail .loneSurrogate behind
      | 0x5C :: _ :: behind => fail .endOfEscape behind
      | _ :: behind => fail .endOfEscape behind

/-- Reads what stands behind a backslash. -/
def readEscape : List UInt8 → Read (List UInt8)
  | [] => fail .endInString []
  | letter :: rest =>
    match shortEscape? letter with
    | some byte => .ok ([byte], rest)
    | none => if letter = 0x75 then readCodePoint rest else fail .invalidEscape rest

theorem length_readHex_lt {text rest : List UInt8} {value : Nat}
    (read : readHex text = .ok (value, rest)) : rest.length < text.length := by
  unfold readHex at read
  split at read
  · split at read
    · obtain ⟨-, rfl⟩ := by simpa using read
      simp
      omega
    · simp [fail] at read
  · simp [fail] at read

theorem length_readCodePoint_lt {text rest bytes : List UInt8}
    (read : readCodePoint text = .ok (bytes, rest)) : rest.length < text.length := by
  unfold readCodePoint at read
  split at read
  · simp at read
  · rename_i first behind hex
    have shorter := length_readHex_lt hex
    split at read
    · obtain ⟨-, rfl⟩ := by simpa using read
      exact shorter
    · split at read
      · simp [fail] at read
      · split at read
        · simp [fail] at read
        · simp [fail] at read
        · rename_i second
          split at read
          · simp at read
          · rename_i last further hex'
            have shorter' := length_readHex_lt hex'
            split at read
            · obtain ⟨-, rfl⟩ := by simpa using read
              simp at shorter
              omega
            · simp [fail] at read
        · simp [fail] at read
        · simp [fail] at read

theorem length_readEscape_lt {text rest bytes : List UInt8}
    (read : readEscape text = .ok (bytes, rest)) : rest.length < text.length := by
  unfold readEscape at read
  split at read
  · simp [fail] at read
  · split at read
    · obtain ⟨-, rfl⟩ := by simpa using read
      simp
    · split at read
      · have := length_readCodePoint_lt read
        simp
        omega
      · simp [fail] at read

/-- Reads the bytes of a string up to its closing quote. -/
def readStringBytes (text : List UInt8) : Read (List UInt8) :=
  match text with
  | [] => fail .endInString []
  | byte :: rest =>
    if byte = 0x22 then .ok ([], rest)
    else if byte = 0x5C then
      match escaped : readEscape rest with
      | .error failure => .error failure
      | .ok (bytes, behind) =>
        have := length_readEscape_lt escaped
        match readStringBytes behind with
        | .error failure => .error failure
        | .ok (more, last) => .ok (bytes ++ more, last)
    else if byte < 0x20 then fail .controlCharacter rest
    else
      match readStringBytes rest with
      | .error failure => .error failure
      | .ok (more, last) => .ok (byte :: more, last)
termination_by text.length

/-- Reads a string from behind its opening quote. A string that is not text fails as many bytes
before its end as it has from the first broken one on. -/
def readString (text : List UInt8) : Read String :=
  match readStringBytes text with
  | .error failure => .error failure
  | .ok (bytes, rest) =>
    match Utf8.decode? bytes with
    | some value => .ok (value, rest)
    | none =>
      let left := rest.length + (Utf8.fromBroken bytes).length
      fail .invalidText (text.drop (text.length - left))

/-- Passes a string from behind its opening quote. Its escapes must have the right form, but may
stand for anything, and its bytes need not be text. -/
def skipString (text : List UInt8) : Except Failure (List UInt8) :=
  match text with
  | [] => fail .endInString []
  | 0x22 :: rest => .ok rest
  | 0x5C :: [] => fail .endInString []
  | 0x5C :: 0x75 :: rest =>
    match hex : readHex rest with
    | .error failure => .error failure
    | .ok (_, behind) =>
      have := length_readHex_lt hex
      skipString behind
  | 0x5C :: letter :: rest =>
    if (shortEscape? letter).isSome then skipString rest else fail .invalidEscape rest
  | byte :: rest => if byte < 0x20 then fail .controlCharacter (byte :: rest) else skipString rest
termination_by text.length
decreasing_by all_goals simp_all <;> omega

/-! ## Writing -/

/-- A digit of a hexadecimal number, in lower case. -/
def hexDigit (value : Nat) : UInt8 :=
  if value < 10 then UInt8.ofNat (0x30 + value) else UInt8.ofNat (0x57 + value)

/-- How a string holds a byte of its text: quotes, backslashes and control characters escaped,
all others as they are. -/
def escapeByte (byte : UInt8) : List UInt8 :=
  if byte = 0x22 then [0x5C, 0x22]
  else if byte = 0x5C then [0x5C, 0x5C]
  else if byte = 0x08 then [0x5C, 0x62]
  else if byte = 0x0C then [0x5C, 0x66]
  else if byte = 0x0A then [0x5C, 0x6E]
  else if byte = 0x0D then [0x5C, 0x72]
  else if byte = 0x09 then [0x5C, 0x74]
  else if byte < 0x20 then
    [0x5C, 0x75, 0x30, 0x30, hexDigit (byte.toNat / 16), hexDigit (byte.toNat % 16)]
  else [byte]

/-- A text as a JSON string. -/
def quote (text : String) : List UInt8 :=
  0x22 :: (Utf8.encode text).flatMap escapeByte ++ [0x22]

/-! ## Written strings are read back -/

theorem hexValue?_hexDigit {value : Nat} (small : value < 16) :
    hexValue? (hexDigit value) = some value := by
  have : ∀ v : Fin 16, hexValue? (hexDigit v.val) = some v.val := by decide
  exact this ⟨value, small⟩

theorem codePointBytes_small {code : Nat} (small : code < 0x20) :
    codePointBytes code = [UInt8.ofNat code] := by
  have : ∀ c : Fin 0x20, codePointBytes c.val = [UInt8.ofNat c.val] := by decide
  exact this ⟨code, small⟩

theorem readEscape_short {letter byte : UInt8} (short : shortEscape? letter = some byte)
    (rest : List UInt8) : readEscape (letter :: rest) = .ok ([byte], rest) := by
  simp [readEscape, short]

theorem readEscape_control {byte : UInt8} (control : byte < 0x20) (rest : List UInt8) :
    readEscape (0x75 :: 0x30 :: 0x30 :: hexDigit (byte.toNat / 16) ::
      hexDigit (byte.toNat % 16) :: rest) = .ok ([byte], rest) := by
  have value : byte.toNat < 0x20 := by simpa [UInt8.lt_iff_toNat_lt] using control
  have high : byte.toNat / 16 < 16 := by omega
  have low : byte.toNat % 16 < 16 := by omega
  have whole : byte.toNat / 16 * 16 + byte.toNat % 16 = byte.toNat := by omega
  have zero : hexValue? 0x30 = some 0 := by decide
  have long : shortEscape? 0x75 = none := by decide
  have digits : readHex (0x30 :: 0x30 :: hexDigit (byte.toNat / 16) ::
      hexDigit (byte.toNat % 16) :: rest) = .ok (byte.toNat, rest) := by
    simp [readHex, zero, hexValue?_hexDigit high, hexValue?_hexDigit low, whole]
  have notSurrogate : byte.toNat < 0xD800 := by omega
  simp [readEscape, long, readCodePoint, digits, notSurrogate, codePointBytes_small value]

/-- An escape contributes what it stands for. -/
theorem readStringBytes_escape {rest bytes behind : List UInt8}
    (read : readEscape rest = .ok (bytes, behind)) :
    readStringBytes (0x5C :: rest) =
      (readStringBytes behind).map fun more => (bytes ++ more.1, more.2) := by
  rw [readStringBytes]
  simp only [show ¬((0x5C : UInt8) = 0x22) by decide, if_false, if_true]
  split
  · simp_all
  · rename_i bytes' behind' escaped
    obtain ⟨rfl, rfl⟩ : bytes' = bytes ∧ behind' = behind := by simpa [read] using escaped.symm
    cases readStringBytes behind' <;> rfl

/-- A byte that needs no escape contributes itself. -/
theorem readStringBytes_plain {byte : UInt8} (notQuote : byte ≠ 0x22) (notSlash : byte ≠ 0x5C)
    (notControl : ¬byte < 0x20) (rest : List UInt8) :
    readStringBytes (byte :: rest) =
      (readStringBytes rest).map fun more => (byte :: more.1, more.2) := by
  rw [readStringBytes]
  simp only [notQuote, notSlash, notControl, if_false]
  cases readStringBytes rest <;> rfl

theorem readStringBytes_escapeByte (byte : UInt8) (text : List UInt8) :
    readStringBytes (escapeByte byte ++ text) =
      (readStringBytes text).map fun more => (byte :: more.1, more.2) := by
  unfold escapeByte
  split
  · rename_i same
    subst same
    exact readStringBytes_escape (readEscape_short (by decide) text)
  split
  · rename_i same
    subst same
    exact readStringBytes_escape (readEscape_short (by decide) text)
  split
  · rename_i same
    subst same
    exact readStringBytes_escape (readEscape_short (by decide) text)
  split
  · rename_i same
    subst same
    exact readStringBytes_escape (readEscape_short (by decide) text)
  split
  · rename_i same
    subst same
    exact readStringBytes_escape (readEscape_short (by decide) text)
  split
  · rename_i same
    subst same
    exact readStringBytes_escape (readEscape_short (by decide) text)
  split
  · rename_i same
    subst same
    exact readStringBytes_escape (readEscape_short (by decide) text)
  split
  · rename_i control
    exact readStringBytes_escape (readEscape_control control text)
  · rename_i notQuote notSlash _ _ _ _ _ notControl
    exact readStringBytes_plain notQuote notSlash notControl text

theorem readStringBytes_escaped (bytes rest : List UInt8) :
    readStringBytes (bytes.flatMap escapeByte ++ 0x22 :: rest) = .ok (bytes, rest) := by
  induction bytes with
  | nil => rw [List.flatMap_nil, List.nil_append, readStringBytes]; rfl
  | cons byte bytes ih =>
    rw [List.flatMap_cons, List.append_assoc, readStringBytes_escapeByte, ih]
    rfl

/-- A written string is read back, up to its closing quote. -/
theorem readString_quote (text : String) (rest : List UInt8) :
    readString ((quote text).tail ++ rest) = .ok (text, rest) := by
  have inside : (quote text).tail ++ rest =
      (Utf8.encode text).flatMap escapeByte ++ 0x22 :: rest := by simp [quote]
  rw [inside, readString, readStringBytes_escaped]
  simp [Utf8.decode?_encode]

end RuleVocabulary.Json
