import Mathlib.Data.List.TakeWhile
import RuleVocabulary.Archive.TarHeader
import RuleVocabulary.Proofs.Text.Utf8

/-!
# Numbers in octal digits

A field holds a number as octal digits. Blanks may stand in front of them, and blanks and zero bytes
close them, unless the digits fill the field up. Main statement: such a field is read as the number
that its digits have for their value (`octal_of_written`), also where a field may hold bytes instead
(`quantity_of_written`). A number that is small enough can be written with so many digits
(`writesOctal_octalDigits`).
-/

set_option autoImplicit false

namespace RuleVocabulary.Archive

open RuleVocabulary.Text

/-- Whether a byte is an octal digit. -/
def IsOctalDigit (byte : UInt8) : Prop :=
  0x30 ≤ byte.toNat ∧ byte.toNat < 0x38

/-- The value of octal digits. -/
def octalValue (digits : List UInt8) : Nat :=
  digits.foldl (fun value digit => value * 8 + (digit.toNat - 0x30)) 0

/-- Whether a field holds a number in octal digits. -/
def WritesOctal (value : Nat) (field : List UInt8) : Prop :=
  ∃ blanks digits closing, field = blanks ++ digits ++ closing ∧ (∀ byte ∈ blanks, byte = 0x20) ∧
    digits ≠ [] ∧ (∀ byte ∈ digits, IsOctalDigit byte) ∧
    (∀ byte ∈ closing, byte = 0x20 ∨ byte = 0) ∧ octalValue digits = value

/-! ## Writing digits -/

/-- The last so many octal digits of a number. -/
def octalDigits : (count : Nat) → Nat → List UInt8
  | 0, _ => []
  | count + 1, value => octalDigits count (value / 8) ++ [UInt8.ofNat (0x30 + value % 8)]

/-- The least number that takes more than so many octal digits. -/
def octalLimit : (count : Nat) → Nat
  | 0 => 1
  | count + 1 => octalLimit count * 8

@[simp]
theorem length_octalDigits (count value : Nat) : (octalDigits count value).length = count := by
  induction count generalizing value with
  | zero => rfl
  | succ count ih => rw [octalDigits, List.length_append, ih, List.length_singleton]

theorem toNat_digit (value : Nat) :
    (UInt8.ofNat (0x30 + value % 8)).toNat = 0x30 + value % 8 := by
  rw [UInt8.toNat_ofNat']
  omega

theorem isOctalDigit_of_mem_octalDigits {count value : Nat} {byte : UInt8}
    (member : byte ∈ octalDigits count value) : IsOctalDigit byte := by
  induction count generalizing value with
  | zero => cases member
  | succ count ih =>
      rcases List.mem_append.mp member with before | last
      · exact ih before
      · obtain rfl := List.mem_singleton.mp last
        rw [IsOctalDigit, toNat_digit]
        omega

/-- A number is the value of its digits, if there are enough of them. -/
theorem octalValue_octalDigits {count value : Nat} (fits : value < octalLimit count) :
    octalValue (octalDigits count value) = value := by
  induction count generalizing value with
  | zero => exact (Nat.lt_one_iff.mp fits).symm
  | succ count ih =>
      rw [octalLimit] at fits
      have before := ih (show value / 8 < octalLimit count by omega)
      rw [octalValue] at before ⊢
      rw [octalDigits, List.foldl_append, before, List.foldl_cons, List.foldl_nil, toNat_digit]
      omega

/-- Digits behind which nothing but blanks and zero bytes stand are a written number. -/
theorem writesOctal_octalDigits {count value : Nat} (fits : value < octalLimit (count + 1))
    {closing : List UInt8} (behind : ∀ byte ∈ closing, byte = 0x20 ∨ byte = 0) :
    WritesOctal value (octalDigits (count + 1) value ++ closing) := by
  refine ⟨[], octalDigits (count + 1) value, closing, rfl, nofun, ?_, ?_, behind,
    octalValue_octalDigits fits⟩
  · intro none
    have length := length_octalDigits (count + 1) value
    rw [none] at length
    cases length
  · exact fun byte member => isOctalDigit_of_mem_octalDigits member

/-! ## Bytes as characters -/

/-- The character that a byte below `0x80` stands for. -/
def asChar (byte : UInt8) : Char :=
  Char.ofNat byte.toNat

theorem toNat_asChar {byte : UInt8} (small : byte.toNat < 0x80) :
    (asChar byte).toNat = byte.toNat := by
  rw [asChar, Char.ofNat, dif_pos (.inl (by omega))]
  rfl

theorem isDigit_asChar {byte : UInt8} (digit : IsOctalDigit byte) :
    (asChar byte).isDigit = true := by
  obtain ⟨least, most⟩ := digit
  have code : (asChar byte).val.toNat = byte.toNat := toNat_asChar (by omega)
  have zero : '0'.val.toNat = 0x30 := rfl
  have nine : '9'.val.toNat = 0x39 := rfl
  simp only [Char.isDigit, Bool.and_eq_true, decide_eq_true_eq, UInt32.le_iff_toNat_le, ge_iff_le]
  exact ⟨by omega, by omega⟩

theorem isBlank_asChar {byte : UInt8} (digit : IsOctalDigit byte) :
    isBlank (asChar byte) = false := by
  obtain ⟨least, most⟩ := digit
  have code := toNat_asChar (show byte.toNat < 0x80 by omega)
  simp only [isBlank, code, Bool.or_eq_false_iff, Bool.and_eq_false_iff, decide_eq_false_iff_not,
    beq_eq_false_iff_ne]
  omega

theorem asChar_ne_plus {byte : UInt8} (digit : IsOctalDigit byte) : asChar byte ≠ '+' := by
  intro same
  have code := toNat_asChar (show byte.toNat < 0x80 by have := digit.2; omega)
  rw [same] at code
  have plus : '+'.toNat = 0x2B := rfl
  have := digit.1
  omega

/-! ## Reading digits -/

theorem digitsInBase?_asChar {digits : List UInt8} (octal : ∀ byte ∈ digits, IsOctalDigit byte) :
    digitsInBase? 8 (digits.map asChar) = some (octalValue digits) := by
  have later : ∀ value, (digits.map asChar).foldl (fun value digit => do
        let value ← value
        if digit.isDigit && digit.toNat - 48 < 8 then some (value * 8 + (digit.toNat - 48))
        else none) (some value) =
      some (digits.foldl (fun value digit => value * 8 + (digit.toNat - 0x30)) value) := by
    induction digits with
    | nil => exact fun _ => rfl
    | cons byte digits ih =>
        intro value
        have own := octal byte (List.mem_cons_self ..)
        have code := toNat_asChar (show byte.toNat < 0x80 by have := own.2; omega)
        have small : byte.toNat - 48 < 8 := by
          have := own.2
          omega
        rw [List.map_cons, List.foldl_cons, List.foldl_cons, ← ih fun other member =>
          octal other (List.mem_cons_of_mem _ member)]
        simp only [Option.bind_eq_bind, Option.bind_some, isDigit_asChar own, code, small,
          decide_true, Bool.and_self, ↓reduceIte]
  exact later 0

theorem natural?_asChar {digits : List UInt8} (octal : ∀ byte ∈ digits, IsOctalDigit byte)
    (given : digits ≠ []) (small : octalValue digits < 0x10000000000000000) :
    natural? 8 (digits.map asChar) = some (octalValue digits) := by
  cases digits with
  | nil => exact absurd rfl given
  | cons byte digits =>
      have read := digitsInBase?_asChar octal
      have plain := asChar_ne_plus (octal byte (List.mem_cons_self ..))
      rw [List.map_cons] at read ⊢
      unfold natural?
      split
      · rename_i signed
        exact absurd (List.cons.inj signed).1 plain
      · simp only [List.isEmpty_cons, Bool.false_eq_true, read, Option.filter_some, small,
          decide_true, ↓reduceIte]

/-! ## Reading fields -/

/-- Blanks around text that neither starts nor ends with one are trimmed. -/
theorem trim_padded {front core back : List Char} (before : ∀ c ∈ front, isBlank c = true)
    (inside : ∀ c ∈ core, isBlank c = false) (behind : ∀ c ∈ back, isBlank c = true)
    (given : core ≠ []) : trim (front ++ core ++ back) = core := by
  have start : trimStart (front ++ core ++ back) = core ++ back := by
    rw [trimStart, List.append_assoc, List.dropWhile_append_of_pos before]
    refine dropWhile_eq_self ?_
    intro c first
    cases core with
    | nil => exact absurd rfl given
    | cons d core =>
        obtain rfl := Option.some.inj first
        exact inside d (List.mem_cons_self ..)
  have ending : trimEnd (core ++ back) = core := by
    rw [trimEnd, dropEndWhile, List.reverse_append, List.dropWhile_append_of_pos]
    · rw [dropWhile_eq_self, List.reverse_reverse]
      intro c last
      exact inside c (List.mem_reverse.mp (List.mem_of_mem_head? last))
    · intro c member
      exact behind c (List.mem_reverse.mp member)
  rw [trim, start, ending]

theorem untilZero_of_pos {bytes rest : List UInt8} (used : ∀ byte ∈ bytes, byte ≠ 0) :
    untilZero (bytes ++ rest) = bytes ++ untilZero rest := by
  refine List.takeWhile_append_of_pos ?_
  intro byte member
  exact bne_iff_ne.mpr (used byte member)

/-- Up to its first zero, a field holds its digits with blanks around them. -/
theorem untilZero_of_written {value : Nat} {field : List UInt8} (written : WritesOctal value field) :
    ∃ front digits back, untilZero field = front ++ digits ++ back ∧
      (∀ byte ∈ front, byte = 0x20) ∧ digits ≠ [] ∧ (∀ byte ∈ digits, IsOctalDigit byte) ∧
      (∀ byte ∈ back, byte = 0x20) ∧ octalValue digits = value := by
  obtain ⟨blanks, digits, closing, rfl, before, given, octals, behind, same⟩ := written
  refine ⟨blanks, digits, untilZero closing, ?_, before, given, octals, ?_, same⟩
  · refine untilZero_of_pos ?_
    rintro byte member rfl
    rcases List.mem_append.mp member with blank | digit
    · exact absurd (before 0 blank) (by decide)
    · exact absurd (octals 0 digit).1 (by decide)
  · intro byte member
    rw [untilZero] at member
    have used := List.mem_takeWhile_imp member
    exact (behind byte (List.takeWhile_subset _ member)).resolve_right (bne_iff_ne.mp used)

theorem isBlank_of_mem_blanks {bytes : List UInt8} (blanks : ∀ byte ∈ bytes, byte = 0x20) :
    ∀ c ∈ bytes.map asChar, isBlank c = true := by
  intro c member
  obtain ⟨byte, here, rfl⟩ := List.mem_map.mp member
  rw [blanks byte here]
  decide

/-- **A field is read as the value of its digits.** -/
theorem octal_of_written {value : Nat} {field : List UInt8} (written : WritesOctal value field)
    (small : value < 0x10000000000000000) (name : String) : octal name field = .ok value := by
  obtain ⟨front, digits, back, shown, before, given, octals, behind, rfl⟩ :=
    untilZero_of_written written
  have ascii : ∀ byte ∈ front ++ digits ++ back, byte.toNat < 0x80 := by
    intro byte member
    rcases List.mem_append.mp member with first | last
    · rcases List.mem_append.mp first with blank | digit
      · rw [before byte blank]
        decide
      · have := (octals byte digit).2
        omega
    · rw [behind byte last]
      decide
  have core : ∀ c ∈ digits.map asChar, isBlank c = false := by
    intro c member
    obtain ⟨byte, here, rfl⟩ := List.mem_map.mp member
    exact isBlank_asChar (octals byte here)
  have trimmed : trim ((front ++ digits ++ back).map asChar) = digits.map asChar := by
    rw [List.map_append, List.map_append]
    exact trim_padded (isBlank_of_mem_blanks before) core (isBlank_of_mem_blanks behind)
      (by simpa using given)
  have decoded : Utf8.decode? (front ++ digits ++ back) =
      some (String.ofList ((front ++ digits ++ back).map asChar)) := Utf8.decode?_ascii ascii
  rw [octal, shown, decoded]
  simp only [String.toList_ofList]
  rw [trimmed, natural?_asChar octals given small]

/-- The first bit of a byte below `0x80` is not set. -/
theorem and_first_bit {byte : UInt8} (small : byte.toNat < 0x80) : byte &&& 0x80 = 0 := by
  have all : ∀ code : Fin 0x80, UInt8.ofNat code.val &&& 0x80 = 0 := by decide
  rw [← UInt8.ofNat_toNat (x := byte)]
  exact all ⟨byte.toNat, small⟩

/-- A field of digits is told from one of bytes. -/
theorem quantity_of_written {value : Nat} {field : List UInt8} (written : WritesOctal value field)
    (small : value < 0x10000000000000000) (name : String) : quantity name field = .ok value := by
  have plain : (field.head?.getD 0) &&& 0x80 = 0 := by
    obtain ⟨blanks, digits, closing, rfl, before, given, octals, -, -⟩ := written
    refine and_first_bit ?_
    cases blanks with
    | cons byte blanks =>
        obtain rfl := before byte (List.mem_cons_self ..)
        show (0x20 : UInt8).toNat < 0x80
        decide
    | nil =>
        cases digits with
        | nil => exact absurd rfl given
        | cons byte digits =>
            have := (octals byte (List.mem_cons_self ..)).2
            simp only [List.nil_append, List.cons_append, List.head?_cons, Option.getD_some]
            omega
  rw [quantity, plain, bne_self_eq_false, if_neg Bool.false_ne_true]
  exact octal_of_written written small name

end RuleVocabulary.Archive
