import RuleVocabulary.Proofs.Answer
import RuleVocabulary.Proofs.Archive.Members
import RuleVocabulary.Proofs.Archive.Octal

/-!
# Written archives

An archive is written from files and directories. Each gives a header block of the dialect `ustar`,
and its data with zeros up to the next block; nothing, or blocks of zeros, close the archive.
`Written` says which bytes are such an archive. It fixes the fields of a header that a reader uses
and leaves the others open. Every list of members has a written form (`written_write`).

Main statement: what is written is read back, which yields the files in order
(`written_archive_is_read`). The first two bytes are no obstacle: they come from a path, and in no
text does `0x8B` follow `0x1F`.
-/

set_option autoImplicit false

namespace RuleVocabulary.Archive

open RuleVocabulary.Text

/-! ## Members -/

/-- A path that fits into the name field of a header. -/
structure MemberPath where
  text : String
  given : text ≠ ""
  short : (Utf8.encode text).length ≤ 100
  unclosed : 0 ∉ Utf8.encode text

namespace MemberPath

/-- The bytes of a path. -/
def bytes (path : MemberPath) : List UInt8 :=
  Utf8.encode path.text

/-- A path with every backslash replaced by a slash. -/
def slashed (path : MemberPath) : String :=
  String.ofList (path.text.toList.map fun c => if c = '\\' then '/' else c)

theorem bytes_ne_nil (path : MemberPath) : path.bytes ≠ [] := by
  intro none
  have text := Utf8.decode?_encode path.text
  rw [show Utf8.encode path.text = Utf8.encode "" from none, Utf8.decode?_encode] at text
  exact path.given (Option.some.inj text).symm

end MemberPath

/-- What an archive is written from. -/
inductive Member where
  | file (path : MemberPath) (data : List UInt8)
  | directory (path : MemberPath)

namespace Member

/-- The path of a member. -/
def path : Member → MemberPath
  | file path _ => path
  | directory path => path

/-- The data of a member. A directory has none. -/
def data : Member → List UInt8
  | file _ data => data
  | directory _ => []

/-- The byte that tells files from directories. -/
def type : Member → UInt8
  | file _ _ => 0x30
  | directory _ => 0x35

/-- The entry that a member stands for. A directory stands for none. -/
def entry? : Member → Option Entry
  | file path data => some ⟨path.slashed, data⟩
  | directory _ => none

end Member

/-! ## The format -/

/-- The sum of bytes. -/
def byteSum (bytes : List UInt8) : Nat :=
  bytes.foldl (fun total byte => total + byte.toNat) 0

/-- Whether a block is a header of a member. -/
structure Member.Heads (member : Member) (block : List UInt8) : Prop where
  whole : block.length = blockSize
  name : field 0 100 block =
    member.path.bytes ++ List.replicate (100 - member.path.bytes.length) 0
  size : WritesOctal member.data.length (field 124 12 block)
  sum : WritesOctal (byteSum (block.take 148 ++ List.replicate 8 0x20 ++ block.drop 156))
    (field 148 8 block)
  type : field 156 1 block = [member.type]
  dialect : field 257 8 block = [0x75, 0x73, 0x74, 0x61, 0x72, 0x00, 0x30, 0x30]
  unprefixed : (field 345 155 block).head? = some 0

/-- The zeros behind data, up to the next block. -/
def padding (size : Nat) : List UInt8 :=
  List.replicate ((blockSize - size % blockSize) % blockSize) 0

/-- The data of a member, with zeros up to the next block. -/
def Member.body (member : Member) : List UInt8 :=
  member.data ++ padding member.data.length

/-- Whether bytes are an archive written from members. -/
inductive Written : List Member → List UInt8 → Prop where
  | closed (count : Nat) : Written [] (List.replicate (count * blockSize) 0)
  | member {member : Member} {members : List Member} {block rest : List UInt8}
      (heads : member.Heads block) (behind : Written members rest) :
      Written (member :: members) (block ++ (member.body ++ rest))

theorem Member.length_body (member : Member) :
    member.body.length = paddedSize member.data.length := by
  rw [body, padding, List.length_append, List.length_replicate, paddedSize, blockSize]
  omega

/-! ## Sums -/

theorem foldl_byteSum (total : Nat) (bytes : List UInt8) :
    bytes.foldl (fun total byte => total + byte.toNat) total = total + byteSum bytes := by
  induction bytes generalizing total with
  | nil => rfl
  | cons byte bytes ih =>
      rw [byteSum, List.foldl_cons, List.foldl_cons, ih, ih (0 + _), Nat.zero_add, Nat.add_assoc]

theorem byteSum_append (front back : List UInt8) :
    byteSum (front ++ back) = byteSum front + byteSum back := by
  rw [byteSum, List.foldl_append, foldl_byteSum]
  rfl

theorem byteSum_le (bytes : List UInt8) : byteSum bytes ≤ 255 * bytes.length := by
  induction bytes with
  | nil => exact Nat.le_refl 0
  | cons byte bytes ih =>
      have own := byte.toNat_lt
      rw [byteSum, List.foldl_cons, foldl_byteSum, List.length_cons]
      omega

/-- The sum of a header counts its own field as blanks. -/
theorem sum_eq_byteSum (block : List UInt8) :
    Header.sum ⟨block⟩ =
      byteSum (block.take 148 ++ List.replicate 8 0x20 ++ block.drop 156) := by
  have blanks : byteSum (List.replicate 8 0x20) = 8 * 32 := rfl
  rw [Header.sum, foldl_byteSum, byteSum_append, byteSum_append, byteSum_append, blanks]
  show 8 * 32 + (byteSum (block.take 148) + byteSum (block.drop 156)) = _
  omega

/-! ## Writing -/

namespace Member

/-- The header of a member up to the field for its sum. What a reader does not use is zero. -/
def front (member : Member) : List UInt8 :=
  member.path.bytes ++ List.replicate (100 - member.path.bytes.length) 0 ++
    (List.replicate 24 0 ++ (octalDigits 11 member.data.length ++ [0] ++ List.replicate 12 0))

/-- The header of a member from behind the field for its sum. -/
def back (member : Member) : List UInt8 :=
  [member.type] ++ (List.replicate 100 0 ++
    ([0x75, 0x73, 0x74, 0x61, 0x72, 0x00, 0x30, 0x30] ++ List.replicate 247 0))

/-- A header of a member. -/
def head (member : Member) : List UInt8 :=
  let sum := byteSum (member.front ++ List.replicate 8 0x20 ++ member.back)
  member.front ++ (octalDigits 6 sum ++ [0, 0x20] ++ member.back)

theorem length_name (member : Member) :
    (member.path.bytes ++ List.replicate (100 - member.path.bytes.length) 0).length = 100 := by
  rw [List.length_append, List.length_replicate]
  exact Nat.add_sub_cancel' member.path.short

theorem length_front (member : Member) : member.front.length = 148 := by
  rw [front, List.length_append, length_name]
  simp only [List.length_append, List.length_replicate, length_octalDigits, List.length_singleton]

theorem length_back (member : Member) : member.back.length = 356 := by
  simp only [back, List.length_append, List.length_replicate, List.length_cons, List.length_nil]

end Member

/-- Writes an archive. Two blocks of zeros close it. -/
def write : List Member → List UInt8
  | [] => List.replicate (2 * blockSize) 0
  | member :: members =>
    member.head ++ (member.body ++ write members)

theorem field_first {part rest : List UInt8} {length : Nat} (own : part.length = length) :
    field 0 length (part ++ rest) = part := by
  rw [field, List.drop_zero, ← own, List.take_left]

theorem field_behind {part : List UInt8} {skipped : Nat} (own : part.length = skipped)
    (start length : Nat) (rest : List UInt8) :
    field (skipped + start) length (part ++ rest) = field start length rest := by
  rw [field, field, ← own, List.drop_length_add_append]

theorem field_within {front : List UInt8} {start length : Nat}
    (inside : start + length ≤ front.length) (rest : List UInt8) :
    field start length (front ++ rest) = field start length front := by
  have long : length ≤ (front.drop start).length := by
    rw [List.length_drop]
    omega
  rw [field, field, List.drop_append_of_le_length (by omega), List.take_append_of_le_length long]

theorem heads_head {member : Member} (small : member.data.length < octalLimit 11) :
    member.Heads member.head := by
  have front := member.length_front
  have back := member.length_back
  have zero : ∀ byte ∈ ([0] : List UInt8), byte = 0x20 ∨ byte = 0 := by
    intro byte here
    exact .inr (List.mem_singleton.mp here)
  have both : ∀ byte ∈ ([0, 0x20] : List UInt8), byte = 0x20 ∨ byte = 0 := by
    intro byte here
    rcases List.mem_cons.mp here with first | second
    · exact .inr first
    · exact .inl (List.mem_singleton.mp second)
  have sumLength : ∀ sum, (octalDigits 6 sum ++ [0, 0x20]).length = 8 := by
    intro sum
    rw [List.length_append, length_octalDigits, List.length_cons, List.length_singleton]
  have sizeLength : (octalDigits 11 member.data.length ++ [0]).length = 12 := by
    rw [List.length_append, length_octalDigits, List.length_singleton]
  have behindSum : ∀ start length,
      field (148 + (8 + start)) length member.head = field start length member.back := by
    intro start length
    rw [Member.head, field_behind front, field_behind (sumLength _)]
  constructor
  case whole =>
    rw [Member.head, List.length_append, List.length_append, front, sumLength, back, blockSize]
  case name =>
    rw [Member.head, field_within (by omega), Member.front]
    exact field_first member.length_name
  case size =>
    have here : field 124 12 member.head = octalDigits 11 member.data.length ++ [0] := by
      rw [Member.head, field_within (by omega), Member.front]
      exact (field_behind member.length_name 24 12 _).trans
        ((field_behind List.length_replicate 0 12 _).trans (field_first sizeLength))
    rw [here]
    exact writesOctal_octalDigits small zero
  case sum =>
    have before : member.head.take 148 = member.front := List.take_left' front
    have after : member.head.drop 156 = member.back := by
      rw [Member.head, ← List.append_assoc]
      refine List.drop_left' ?_
      rw [List.length_append, front, sumLength]
    have here : field 148 8 member.head = octalDigits 6
        (byteSum (member.front ++ List.replicate 8 0x20 ++ member.back)) ++ [0, 0x20] :=
      (field_behind front 0 8 _).trans (field_first (sumLength _))
    have least := byteSum_le (member.front ++ List.replicate 8 0x20 ++ member.back)
    rw [List.length_append, List.length_append, front, back, List.length_replicate] at least
    rw [here, before, after]
    exact writesOctal_octalDigits (Nat.lt_of_le_of_lt least (by decide)) both
  case type => exact (behindSum 0 1).trans (field_first rfl)
  case dialect => exact (behindSum 101 8).trans rfl
  case unprefixed => exact (congrArg List.head? (behindSum 189 155)).trans rfl

theorem written_write {members : List Member}
    (small : ∀ member ∈ members, member.data.length < octalLimit 11) :
    Written members (write members) := by
  induction members with
  | nil => exact .closed 2
  | cons member members ih =>
      exact .member (heads_head (small member (List.mem_cons_self ..)))
        (ih fun other here => small other (List.mem_cons_of_mem _ here))

/-! ## Reading headers -/

section

variable {member : Member} {block : List UInt8}

theorem type_of_heads (heads : member.Heads block) : Header.type ⟨block⟩ = member.type := by
  have first : block[156]? = (field 156 1 block).head? := by
    rw [field, List.head?_take, if_neg Nat.one_ne_zero, List.head?_drop]
  rw [Header.type, first, heads.type]
  rfl

theorem untilZero_zeros (count : Nat) : untilZero (List.replicate count 0) = [] := by
  cases count with
  | zero => rfl
  | succ count => rfl

theorem path_of_heads (heads : member.Heads block) : Header.path ⟨block⟩ = member.path.bytes := by
  have used : ∀ byte ∈ member.path.bytes, byte ≠ 0 := by
    rintro byte here rfl
    exact member.path.unclosed here
  have name : untilZero (field 0 100 block) = member.path.bytes := by
    rw [heads.name, untilZero_of_pos used, untilZero_zeros, List.append_nil]
  have own : untilZero (field 345 155 block) = [] := by
    obtain ⟨rest, first⟩ := List.head?_eq_some_iff.mp heads.unprefixed
    rw [first]
    rfl
  simp only [Header.path, name, own, List.isEmpty_nil, Bool.not_true, Bool.and_false,
    Bool.false_eq_true, ↓reduceIte]

theorem entryPath_of_heads (heads : member.Heads block) :
    entryPath .nothing ⟨block⟩ = member.path.slashed := by
  have bytes : pathBytes .nothing ⟨block⟩ = Utf8.encode member.path.text := path_of_heads heads
  rw [entryPath, bytes, Utf8.decodeLossy_encode]
  rfl

/-- The role that a member has for a reader. -/
def Member.role : Member → Role
  | file _ _ => .file
  | directory _ => .directory

theorem role_of_heads (heads : member.Heads block) : Header.role ⟨block⟩ = member.role := by
  have type := type_of_heads heads
  unfold Header.role Header.isDirectory
  rw [type]
  cases member with
  | file path data => simp [Member.type, Member.role]
  | directory path => simp [Member.type, Member.role]

theorem check_of_heads (heads : member.Heads block) : Header.check ⟨block⟩ = .ok () := by
  have sum := sum_eq_byteSum block
  have small : Header.sum ⟨block⟩ < 0x10000000000000000 := by
    have least := byteSum_le (block.take 148 ++ List.replicate 8 0x20 ++ block.drop 156)
    simp only [List.length_append, List.length_take, List.length_drop, List.length_replicate,
      heads.whole, blockSize] at least
    omega
  have recorded : Header.recordedSum ⟨block⟩ = .ok (Header.sum ⟨block⟩) :=
    octal_of_written (sum ▸ heads.sum) small _
  rw [Header.check, recorded]
  exact if_pos rfl

/-- The size of a member is taken from its header. -/
theorem memberSize_of_heads (heads : member.Heads block)
    (small : member.data.length < 0x10000000000000000) :
    memberSize .nothing ⟨block⟩ = .ok member.data.length := by
  have size : Header.size ⟨block⟩ = .ok member.data.length :=
    quantity_of_written heads.size small _
  rw [memberSize, size]
  simp only [bind, Except.bind, Described.nothing, Option.bind_none, Option.getD_none, ite_self]
  rfl

/-- A header has a byte that is not zero. -/
theorem isZero_of_heads (heads : member.Heads block) : isZero block = false := by
  have first : (0x75 : UInt8) ∈ field 257 8 block := by
    rw [heads.dialect]
    exact List.mem_cons_self ..
  have here : (0x75 : UInt8) ∈ block := List.mem_of_mem_drop (List.mem_of_mem_take first)
  refine List.all_eq_false.mpr ⟨0x75, here, ?_⟩
  decide

/-! ## Reading members -/

theorem readData_of_heads (heads : member.Heads block) (rest : List UInt8) :
    readData none .nothing ⟨block⟩ member.data.length (member.data ++ rest) =
      .ok (member.entry?, .nothing, member.data ++ rest) := by
  have path := entryPath_of_heads heads
  unfold readData
  rw [role_of_heads heads]
  cases member with
  | file _ data =>
      simp only [Member.role, path, List.take_left, Member.data]
      rfl
  | directory _ => rfl

theorem length_of_heads (heads : member.Heads block) (rest : List UInt8) :
    (block ++ (member.body ++ rest)).length =
      blockSize + paddedSize member.data.length + rest.length := by
  rw [List.length_append, List.length_append, member.length_body, heads.whole, Nat.add_assoc]

/-- **A written member is read back.** -/
theorem readMember_of_heads (heads : member.Heads block) {offset : Nat} {rest : List UInt8}
    (addressable : offset + (block ++ (member.body ++ rest)).length < 0x10000000000000000) :
    readMember none .nothing offset (block ++ (member.body ++ rest)) =
      .ok ⟨member.entry?, .nothing, rest⟩ := by
  rw [length_of_heads heads] at addressable
  have own := size_le_paddedSize member.data.length
  have sized : measured .nothing offset ⟨block⟩ = .ok member.data.length :=
    measured_of_sized (check_of_heads heads) (memberSize_of_heads heads (by omega)) (by omega)
  have read : readData none .nothing ⟨block⟩ member.data.length (member.body ++ rest) =
      .ok (member.entry?, .nothing, member.body ++ rest) := by
    rw [Member.body, List.append_assoc]
    exact readData_of_heads heads _
  have complete : paddedSize member.data.length ≤ (member.body ++ rest).length := by
    rw [List.length_append, member.length_body]
    exact Nat.le_add_right ..
  have passed : passData none member.data.length (member.entry?, .nothing, member.body ++ rest) =
      .ok ⟨member.entry?, .nothing, rest⟩ := by
    rw [passData_of_complete complete, List.drop_left' member.length_body]
  rw [readMember, List.take_left' heads.whole, List.drop_left' heads.whole]
  exact bind_eq_ok_iff.mpr ⟨_, sized, bind_eq_ok_iff.mpr ⟨_, read, passed⟩⟩

end

/-! ## Reading archives -/

theorem readMembers_of_written {members : List Member} {bytes : List UInt8}
    (written : Written members bytes) {fuel offset : Nat} (enough : bytes.length < fuel)
    (addressable : offset + bytes.length < 0x10000000000000000) :
    readMembers none fuel .nothing offset bytes = .ok (members.filterMap Member.entry?) := by
  induction written generalizing fuel offset with
  | closed count =>
      obtain ⟨fuel, rfl⟩ : ∃ less, fuel = less + 1 := ⟨fuel - 1, by omega⟩
      cases count with
      | zero =>
          rw [Nat.zero_mul, List.replicate_zero, readMembers_nil]
          rfl
      | succ count =>
          have long : blockSize ≤ (count + 1) * blockSize := Nat.le_mul_of_pos_left _ count.succ_pos
          rw [readMembers_of_zero]
          · rfl
          · rwa [List.length_replicate]
          · rw [List.take_replicate, isZero, List.all_replicate]
            simp
  | @member member members block rest heads behind ih =>
      obtain ⟨fuel, rfl⟩ : ∃ less, fuel = less + 1 := ⟨fuel - 1, by omega⟩
      have total := length_of_heads heads rest
      have positive := blockSize_pos
      have whole : blockSize ≤ (block ++ (member.body ++ rest)).length := by omega
      have used : isZero ((block ++ (member.body ++ rest)).take blockSize) = false := by
        rw [List.take_left' heads.whole]
        exact isZero_of_heads heads
      rw [readMembers_of_member whole used, readMember_of_heads heads addressable]
      simp only
      rw [ih (by omega) (by omega)]
      cases member with
      | file path data => rfl
      | directory path => rfl

/-- Written bytes do not look compressed. -/
theorem not_compressed_of_written {members : List Member} {bytes : List UInt8}
    (written : Written members bytes) : Gzip.isCompressed bytes = false := by
  refine not_compressed_iff.mpr ?_
  rintro ⟨more, looks⟩
  cases written with
  | closed count =>
      have first : (0x1F : UInt8) ∈ List.replicate (count * blockSize) 0 := by
        rw [← looks]
        exact List.mem_cons_self ..
      exact absurd (List.eq_of_mem_replicate first) (by decide)
  | @member member members block rest heads behind =>
      have name : field 0 100 (block ++ (member.body ++ rest)) =
          0x1F :: 0x8B :: more.take 98 := by
        rw [← looks]
        rfl
      have whole : 0 + 100 ≤ block.length := by
        rw [heads.whole]
        decide
      rw [field_within whole, heads.name] at name
      cases text : member.path.bytes with
      | nil => exact member.path.bytes_ne_nil text
      | cons first rest =>
          rw [text] at name
          obtain ⟨rfl, name⟩ := List.cons.inj name
          have starts := Utf8.startsChar_behind_ascii text (by decide)
          cases rest with
          | nil => exact absurd (List.cons.inj name).1 (by decide)
          | cons next rest =>
              obtain ⟨rfl, -⟩ := List.cons.inj name
              exact absurd (starts _ rfl) (by decide)

/-- **What is written is read back.** The offsets of the bytes are numbers of 64 bits, as those of
all bytes in memory are. -/
theorem written_archive_is_read {members : List Member} (archive : Archive)
    (written : Written members archive.bytes)
    (addressable : archive.bytes.length < 0x10000000000000000) :
    archive.isCompressed = false ∧
      archive.expand = .ok (members.filterMap Member.entry?) := by
  have plain : archive.isCompressed = false := not_compressed_of_written written
  refine ⟨plain, ?_⟩
  rw [expand_of_plain plain, readMembers_of_written written (Nat.lt_succ_self _)]
  rwa [Nat.zero_add]

/-- A directory, and two files of one path. -/
def sample : List Member :=
  [.directory ⟨"com/", by decide, by decide +kernel, by decide +kernel⟩,
   .file ⟨"com\\T", by decide, by decide +kernel, by decide +kernel⟩ [0x7B, 0x7D],
   .file ⟨"com\\T", by decide, by decide +kernel, by decide +kernel⟩ []]

theorem sample_is_read :
    Written sample (write sample) ∧ (write sample).length < 0x10000000000000000 ∧
      Archive.isCompressed ⟨"sample", write sample⟩ = false ∧
      Archive.expand ⟨"sample", write sample⟩ = .ok [⟨"com/T", [0x7B, 0x7D]⟩, ⟨"com/T", []⟩] := by
  have written : Written sample (write sample) := written_write (by decide)
  have addressable : (write sample).length < 0x10000000000000000 := by decide +kernel
  obtain ⟨plain, read⟩ := written_archive_is_read ⟨"sample", write sample⟩ written addressable
  refine ⟨written, addressable, plain, read.trans ?_⟩
  decide +kernel

end RuleVocabulary.Archive
