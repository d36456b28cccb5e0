/-!
# Bytes and text

Text is stored in UTF-8. `decode?` accepts well-formed bytes only. `decodeLossy` accepts all:
well-formed bytes stand for the text they encode, and otherwise each longest start of a character
that breaks off, and each byte that starts none, becomes one replacement character. Main
statements: `decode?_encode` and `decodeLossy_encode`, which say that encoded text comes back.
-/

set_option autoImplicit false

namespace RuleVocabulary.Text.Utf8

/-- The bytes of a text. -/
def encode (text : String) : List UInt8 :=
  text.toByteArray.data.toList

/-- The text that well-formed bytes encode. -/
def decode? (bytes : List UInt8) : Option String :=
  String.fromUTF8? ⟨bytes.toArray⟩

/-! ## Broken text -/

/-- What a first byte announces. -/
structure Lead where
  /-- The bits it contributes. -/
  bits : Nat
  /-- How many bytes follow it. -/
  following : Nat
  /-- The least and the greatest byte that may come next. -/
  least : UInt8
  greatest : UInt8

/-- The meaning of a first byte, if a character may start with it. -/
def Lead.ofByte? (byte : UInt8) : Option Lead :=
  let value := byte.toNat
  if value < 0x80 then some ⟨value, 0, 0x80, 0xBF⟩
  else if value < 0xC2 then none
  else if value < 0xE0 then some ⟨value - 0xC0, 1, 0x80, 0xBF⟩
  else if value = 0xE0 then some ⟨0, 2, 0xA0, 0xBF⟩
  else if value = 0xED then some ⟨0xD, 2, 0x80, 0x9F⟩
  else if value < 0xF0 then some ⟨value - 0xE0, 2, 0x80, 0xBF⟩
  else if value = 0xF0 then some ⟨0, 3, 0x90, 0xBF⟩
  else if value < 0xF4 then some ⟨value - 0xF0, 3, 0x80, 0xBF⟩
  else if value = 0xF4 then some ⟨4, 3, 0x80, 0x8F⟩
  else none

/-- Reads the bytes that follow a first byte as long as they are in range. The result is the code
point, or nothing where the character breaks off, and the bytes behind what was read. -/
def readFollowing : (following bits : Nat) → (least greatest : UInt8) → List UInt8 →
    Option Nat × List UInt8
  | 0, bits, _, _, bytes => (some bits, bytes)
  | following + 1, bits, least, greatest, byte :: rest =>
    if least ≤ byte && byte ≤ greatest then
      readFollowing following (bits * 64 + (byte.toNat - 0x80)) 0x80 0xBF rest
    else (none, byte :: rest)
  | _ + 1, _, _, _, [] => (none, [])

theorem length_readFollowing_le (following bits : Nat) (least greatest : UInt8)
    (bytes : List UInt8) :
    (readFollowing following bits least greatest bytes).2.length ≤ bytes.length := by
  fun_induction readFollowing following bits least greatest bytes with
  | case1 => exact Nat.le_refl _
  | case2 _ _ _ _ _ _ _ ih => exact Nat.le_succ_of_le ih
  | case3 => exact Nat.le_refl _
  | case4 => exact Nat.le_refl _

/-- The character at the front of the bytes behind a first byte, or nothing where it breaks off,
and what follows. -/
def readChar (first : UInt8) (rest : List UInt8) : Option Char × List UInt8 :=
  match Lead.ofByte? first with
  | none => (none, rest)
  | some lead =>
    let read := readFollowing lead.following lead.bits lead.least lead.greatest rest
    (read.1.map Char.ofNat, read.2)

theorem length_readChar_le (first : UInt8) (rest : List UInt8) :
    (readChar first rest).2.length ≤ rest.length := by
  unfold readChar
  split
  · simp
  · exact length_readFollowing_le ..

/-- The characters that bytes stand for, a replacement character for each broken piece. -/
def repair (bytes : List UInt8) : List Char :=
  match bytes with
  | [] => []
  | first :: rest =>
    have : (readChar first rest).2.length < rest.length + 1 :=
      Nat.lt_succ_of_le (length_readChar_le first rest)
    (readChar first rest).1.getD '\uFFFD' :: repair (readChar first rest).2
termination_by bytes.length

/-- The bytes from the first broken piece on. -/
def fromBroken (bytes : List UInt8) : List UInt8 :=
  match bytes with
  | [] => []
  | first :: rest =>
    have : (readChar first rest).2.length < rest.length + 1 :=
      Nat.lt_succ_of_le (length_readChar_le first rest)
    match (readChar first rest).1 with
    | some _ => fromBroken (readChar first rest).2
    | none => bytes
termination_by bytes.length

/-- The text that bytes stand for, broken pieces replaced. -/
def decodeLossy (bytes : List UInt8) : String :=
  (decode? bytes).getD (String.ofList (repair bytes))

/-! ## Encoded text comes back -/

theorem decode?_encode (text : String) : decode? (encode text) = some text := by
  simp [decode?, encode, String.fromUTF8?, String.fromUTF8, text.isValidUTF8]

theorem decodeLossy_encode (text : String) : decodeLossy (encode text) = text := by
  simp [decodeLossy, decode?_encode]

end RuleVocabulary.Text.Utf8
