import RuleVocabulary.Text.Blank
import RuleVocabulary.Text.Utf8
import RuleVocabulary.Archive.Supply

/-!
# Headers of an archive

An archive is a sequence of blocks of 512 bytes. Each member starts with a header block, whose
fields stand at fixed places. Numbers are written in octal digits, or, where the first bit of the
field is set, as big-endian bytes. A header tells by its magic bytes which dialect it is written
in; only the two dialects `ustar` and `gnu` know members that describe other members.
-/

set_option autoImplicit false

namespace RuleVocabulary.Archive

open RuleVocabulary.Text

/-- Why an archive cannot be read. -/
inductive TarFault where
  | stream (fault : StreamFault)
  /-- A block is cut. -/
  | partialBlock
  | checksumMismatch
  /-- A field does not hold a number. -/
  | notNumber (text field : String)
  /-- A field holds bytes that are not text. -/
  | notText (text field : String)
  | sizeOverflow
  /-- The data of a member or their padding are cut. -/
  | endInSkip
  | twoLongNames
  | twoExtensions
  /-- Members describe another member that does not follow. -/
  | describedMemberMissing
  | sparseOutsideGnu
  /-- The further description of a sparse member is missing. -/
  | sparseExtensionMissing
  | sparseUnaligned
  | sparseOutOfOrder
  | sparseOverflow
  | sparseTooMuchData
  | sparseRealSizeMismatch
  | sparseSizeMismatch
deriving DecidableEq, Repr

namespace TarFault

/-- The text for a fault. -/
def message : TarFault → String
  | stream fault => fault.message
  | partialBlock => "failed to read entire block"
  | checksumMismatch => "archive header checksum mismatch"
  | notNumber text field => "numeric field was not a number: " ++ text ++ " when getting " ++ field
  | notText text field =>
    "numeric field did not have utf-8 text: " ++ text ++ " when getting " ++ field
  | sizeOverflow => "size overflow"
  | endInSkip => "unexpected EOF during skip"
  | twoLongNames => "two long name entries describing the same member"
  | twoExtensions => "two pax extensions entries describing the same member"
  | describedMemberMissing =>
    "members found describing a future member but no future member found"
  | sparseOutsideGnu => "sparse entry type listed but not GNU header"
  | sparseExtensionMissing => "failed to read extension"
  | sparseUnaligned => "previous block in sparse file was not aligned to 512-byte boundary"
  | sparseOutOfOrder => "out of order or overlapping sparse blocks"
  | sparseOverflow => "more bytes listed in sparse file than u64 can hold"
  | sparseTooMuchData => "sparse file consumed more data than the header listed"
  | sparseRealSizeMismatch => "mismatch in sparse file chunks and size in header"
  | sparseSizeMismatch => "mismatch in sparse file chunks and entry size in header"

end TarFault

/-- The size of a block. -/
def blockSize : Nat := 512

/-- The bytes of a field. -/
def field (start length : Nat) (block : List UInt8) : List UInt8 :=
  (block.drop start).take length

/-- A field up to its first zero. -/
def untilZero (bytes : List UInt8) : List UInt8 :=
  bytes.takeWhile (· != 0)

/-! ## Numbers -/

/-- The value of digits in a base of at most ten, if all of them are digits. -/
def digitsInBase? (base : Nat) (digits : List Char) : Option Nat :=
  digits.foldl (fun value digit => do
    let value ← value
    if digit.isDigit && digit.toNat - 48 < base then some (value * base + (digit.toNat - 48))
    else none) (some 0)

/-- A written natural number of 64 bits, in which a plus sign may stand in front. -/
def natural? (base : Nat) (text : List Char) : Option Nat :=
  let digits := match text with
    | '+' :: digits => digits
    | digits => digits
  if digits.isEmpty then none
  else (digitsInBase? base digits).filter (· < 0x10000000000000000)

/-- The number in a field of octal digits; `name` tells what it is for. -/
def octal (name : String) (bytes : List UInt8) : Except TarFault Nat :=
  let written := untilZero bytes
  match Utf8.decode? written with
  | none => .error (.notText (Utf8.decodeLossy written) name)
  | some text =>
    match natural? 8 (trim text.toList) with
    | some value => .ok value
    | none => .error (.notNumber text name)

/-- The number that bytes stand for, the highest first. -/
def bigEndian (bytes : List UInt8) : Nat :=
  bytes.foldl (fun value byte => value * 256 + byte.toNat) 0

/-- The number in a field of octal digits or, behind a set first bit, of bytes, of which the last
eight count. -/
def quantity (name : String) (bytes : List UInt8) : Except TarFault Nat :=
  if (bytes.head?.getD 0) &&& 0x80 != 0 then .ok (bigEndian (bytes.drop (bytes.length - 8)))
  else octal name bytes

/-! ## Fields -/

/-- A header block. -/
structure Header where
  block : List UInt8
deriving DecidableEq, Repr

namespace Header

/-- Whether a header is written in the dialect `ustar`. -/
def isUstar (header : Header) : Bool :=
  field 257 8 header.block = [0x75, 0x73, 0x74, 0x61, 0x72, 0x00, 0x30, 0x30]

/-- Whether a header is written in the dialect `gnu`. -/
def isGnu (header : Header) : Bool :=
  field 257 8 header.block = [0x75, 0x73, 0x74, 0x61, 0x72, 0x20, 0x20, 0x00]

/-- Whether a header may describe the member that follows. -/
def mayDescribe (header : Header) : Bool :=
  header.isUstar || header.isGnu

/-- The byte that tells the type of a member. -/
def type (header : Header) : UInt8 :=
  (header.block[156]?).getD 0

/-- Whether a member is a directory. -/
def isDirectory (header : Header) : Bool :=
  header.type = 0x35

/-- The path in a header. Only in the dialect `ustar` a second field may precede the name. -/
def path (header : Header) : List UInt8 :=
  let name := untilZero (field 0 100 header.block)
  let directory := untilZero (field 345 155 header.block)
  if header.isUstar && !directory.isEmpty then directory ++ 0x2F :: name else name

/-- The path in a header as text. -/
def shownPath (header : Header) : String :=
  Utf8.decodeLossy header.path

/-- The sum of all bytes of a header, with blanks in place of the recorded sum. -/
def sum (header : Header) : Nat :=
  (header.block.take 148 ++ header.block.drop 156).foldl (fun total byte => total + byte.toNat)
    (8 * 32)

/-- The recorded sum. -/
def recordedSum (header : Header) : Except TarFault Nat :=
  octal ("cksum for " ++ header.shownPath) (field 148 8 header.block)

/-- The recorded size of a member's data. -/
def size (header : Header) : Except TarFault Nat :=
  quantity ("size for " ++ header.shownPath) (field 124 12 header.block)

/-- Checks the sum of a header. -/
def check (header : Header) : Except TarFault Unit := do
  let recorded ← header.recordedSum
  if header.sum = recorded then .ok () else .error .checksumMismatch

end Header

/-! ## Extensions -/

/-- Cuts bytes at every line feed. -/
def cutLines : List UInt8 → List (List UInt8)
  | [] => [[]]
  | byte :: rest =>
    if byte = 0x0A then [] :: cutLines rest
    else
      match cutLines rest with
      | line :: lines => (byte :: line) :: lines
      | [] => [[byte]]

/-- A key and its value. -/
structure Extension where
  key : List UInt8
  value : List UInt8
deriving DecidableEq, Repr

/-- The extension on a line: its length, a blank, and a key and a value with `=` between. The
length counts the whole line with its end. -/
def extension? (line : List UInt8) : Option Extension :=
  let length := line.takeWhile (· != 0x20)
  match line.dropWhile (· != 0x20) with
  | [] => none
  | _ :: record =>
    match (Utf8.decode? length).bind fun text => natural? 10 text.toList with
    | none => none
    | some count =>
      if count = line.length + 1 then
        match record.dropWhile (· != 0x3D) with
        | [] => none
        | _ :: value => some ⟨record.takeWhile (· != 0x3D), value⟩
      else none

/-- The extensions of a member, `none` for those that are not well-formed. An empty line ends
them. -/
def extensions (data : List UInt8) : List (Option Extension) :=
  ((cutLines data).takeWhile (!·.isEmpty)).map extension?

/-- The path that extensions give: the first, whatever stands around it. -/
def extendedPath? (data : List UInt8) : Option (List UInt8) :=
  (((extensions data).filterMap id).find? (·.key = [0x70, 0x61, 0x74, 0x68])).map Extension.value

/-- The size that extensions give. Nothing behind an extension that is not well-formed counts. -/
def extendedSize? (data : List UInt8) : Option Nat :=
  let formed := ((extensions data).takeWhile Option.isSome).filterMap id
  match formed.find? (·.key = [0x73, 0x69, 0x7A, 0x65]) with
  | none => none
  | some extension => (Utf8.decode? extension.value).bind fun text => natural? 10 text.toList

end RuleVocabulary.Archive
