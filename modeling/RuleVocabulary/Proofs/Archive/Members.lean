import RuleVocabulary.Archive.Basic

/-!
# One member after the other

What a reader does at the front of the bytes of an archive has four cases: there are no bytes
(`readMembers_nil`), there is a cut block (`readMembers_of_short`), there is a block of zeros
(`readMembers_of_zero`), or there is a member. `readMember` reads the one member, and the archive is
read by it step after step (`readMembers_of_member`).

An archive that does not start with the magic bytes of a compressed one is read in this way as a
whole (`not_compressed_iff`, `expand_of_plain`).
-/

set_option autoImplicit false

namespace RuleVocabulary.Archive

/-- What reading one member leaves: its entry, what it tells of the next member, and the bytes
behind it. -/
structure Passed where
  entry : Option Entry
  next : Described
  rest : List UInt8

/-- The size of a member's data, if its header can be trusted. -/
def measured (described : Described) (offset : Nat) (header : Header) : Except TarFault Nat := do
  header.check
  let size ← memberSize described header
  if 0x10000000000000000 ≤ size + (blockSize - 1) ∨
      0x10000000000000000 ≤ offset + blockSize + paddedSize size then
    .error .sizeOverflow
  else return size

/-- Passes the data of a member and their padding, with what was read of it. -/
def passData (fault : Option StreamFault) (size : Nat)
    (read : Option Entry × Described × List UInt8) : Except TarFault Passed :=
  if read.2.2.length < paddedSize size then .error (shortage fault .endInSkip)
  else .ok ⟨read.1, read.2.1, read.2.2.drop (paddedSize size)⟩

/-- Reads the member at the front of bytes. -/
def readMember (fault : Option StreamFault) (described : Described) (offset : Nat)
    (bytes : List UInt8) : Except TarFault Passed := do
  let header : Header := ⟨bytes.take blockSize⟩
  let size ← measured described offset header
  let read ← readData fault described header size (bytes.drop blockSize)
  passData fault size read

variable {fault : Option StreamFault} {fuel : Nat} {described : Described} {offset : Nat}
  {bytes : List UInt8}

theorem blockSize_pos : 0 < blockSize := by
  decide

theorem size_le_paddedSize (size : Nat) : size ≤ paddedSize size := by
  unfold paddedSize blockSize
  omega

theorem measured_of_sized {header : Header} {size : Nat} (checked : header.check = .ok ())
    (sized : memberSize described header = .ok size)
    (addressable : offset + blockSize + paddedSize size < 0x10000000000000000) :
    measured described offset header = .ok size := by
  have own := size_le_paddedSize size
  have small : ¬(0x10000000000000000 ≤ size + (blockSize - 1) ∨
      0x10000000000000000 ≤ offset + blockSize + paddedSize size) := by
    unfold blockSize at addressable ⊢
    omega
  simp only [measured, checked, sized, bind, Except.bind, if_neg small]
  rfl

theorem passData_of_complete {size : Nat} {entry : Option Entry} {next : Described}
    {data : List UInt8} (complete : paddedSize size ≤ data.length) :
    passData fault size (entry, next, data) = .ok ⟨entry, next, data.drop (paddedSize size)⟩ :=
  if_neg (Nat.not_lt_of_le complete)

theorem passData_of_short {size : Nat} {entry : Option Entry} {next : Described}
    {data : List UInt8} (short : data.length < paddedSize size) :
    passData fault size (entry, next, data) = .error (shortage fault .endInSkip) :=
  if_pos short

/-! ## The cases at the front -/

theorem readMembers_nil (fuel : Nat) (described : Described) (offset : Nat) :
    readMembers none (fuel + 1) described offset [] =
      if described = .nothing then .ok [] else .error .describedMemberMissing := by
  simp [readMembers]

theorem readMembers_of_short (given : bytes ≠ []) (short : bytes.length < blockSize) :
    readMembers fault (fuel + 1) described offset bytes =
      .error (shortage fault .partialBlock) := by
  have block : bytes.take blockSize = bytes := List.take_of_length_le (Nat.le_of_lt short)
  simp only [readMembers, block, List.isEmpty_iff, given, short, ↓reduceIte]

theorem length_front (whole : blockSize ≤ bytes.length) :
    (bytes.take blockSize).length = blockSize := by
  rw [List.length_take, Nat.min_eq_left whole]

theorem front_ne_nil (whole : blockSize ≤ bytes.length) : bytes.take blockSize ≠ [] := by
  intro empty
  have length := length_front whole
  rw [empty] at length
  cases length

theorem readMembers_of_zero (whole : blockSize ≤ bytes.length)
    (zero : isZero (bytes.take blockSize) = true) :
    readMembers fault (fuel + 1) described offset bytes =
      if described = .nothing then .ok [] else .error .describedMemberMissing := by
  simp only [readMembers, List.isEmpty_iff, front_ne_nil whole, length_front whole, Nat.lt_irrefl,
    zero, ↓reduceIte]

/-- A member is read, and then the others behind it. -/
theorem readMembers_of_member (whole : blockSize ≤ bytes.length)
    (used : isZero (bytes.take blockSize) = false) :
    readMembers fault (fuel + 1) described offset bytes =
      match readMember fault described offset bytes with
      | .error fault => .error fault
      | .ok passed =>
        (readMembers fault fuel passed.next (offset + (bytes.length - passed.rest.length))
          passed.rest).map (passed.entry.toList ++ ·) := by
  simp only [readMembers, List.isEmpty_iff, front_ne_nil whole, length_front whole, Nat.lt_irrefl,
    used, ↓reduceIte, Bool.false_eq_true, readMember, measured]
  cases (Header.mk (bytes.take blockSize)).check with
  | error fault => rfl
  | ok _ =>
      cases memberSize described ⟨bytes.take blockSize⟩ with
      | error fault => rfl
      | ok size =>
          simp only [bind, Except.bind]
          split
          · rfl
          · simp only [pure, Except.pure]
            cases readData fault described ⟨bytes.take blockSize⟩ size (bytes.drop blockSize) with
            | error fault => rfl
            | ok read =>
                obtain ⟨entry, next, data⟩ := read
                simp only [passData]
                split
                · rfl
                · rfl

/-! ## Whole archives -/

theorem not_compressed_iff : Gzip.isCompressed bytes = false ↔ ¬ Gzip.magic <+: bytes := by
  rw [Gzip.isCompressed, ← Bool.not_eq_true, List.isPrefixOf_iff_prefix]

/-- An archive that is not compressed is read as it is. -/
theorem expand_of_plain {archive : Archive} (plain : archive.isCompressed = false) :
    archive.expand =
      match readMembers none (archive.bytes.length + 1) .nothing 0 archive.bytes with
      | .ok entries => .ok entries
      | .error fault => .error (.archiveRead (archive.label ++ ": " ++ fault.message)) := by
  rw [expand, supply, plain]
  rfl

end RuleVocabulary.Archive
