import RuleVocabulary.Archive.Checksum
import RuleVocabulary.Archive.Inflate
import RuleVocabulary.Archive.Supply

/-!
# Compressed archives

A compressed archive is a header, deflated data, and a trailer with the checksum and the length of
what was compressed. The header may hold extra data, a file name, a comment, and a checksum of its
own. What follows the trailer is ignored. A fault in the data or in the trailer is met behind the
contents it belongs to (`Supply`).
-/

set_option autoImplicit false

namespace RuleVocabulary.Archive.Gzip

/-- The two bytes that every compressed archive starts with. -/
def magic : List UInt8 := [0x1F, 0x8B]

/-- Whether bytes look like a compressed archive. -/
def isCompressed (bytes : List UInt8) : Bool :=
  magic.isPrefixOf bytes

/-- Whether a flag of the header is set. -/
def hasFlag (flags : UInt8) (flag : UInt8) : Bool :=
  flags &&& flag != 0

/-- The text behind exactly so many bytes. -/
def skipBytes (count : Nat) (bytes : List UInt8) : Except StreamFault (List UInt8) :=
  if bytes.length < count then .error .endOfFile else .ok (bytes.drop count)

/-- The greatest length of a name or a comment. -/
def maxFieldLength : Nat := 65535

/-- The text behind a field that a zero ends. -/
def skipField (bytes : List UInt8) : Except StreamFault (List UInt8) :=
  let field := bytes.takeWhile (· != 0)
  if maxFieldLength < field.length then .error .headerFieldTooLong
  else skipBytes (field.length + 1) bytes

/-- The text behind the extra data, which has its length in front. -/
def skipExtra (bytes : List UInt8) : Except StreamFault (List UInt8) := do
  let rest ← skipBytes 2 bytes
  skipBytes (littleEndian (bytes.take 2)) rest

/-- The text behind the checksum of a header, if it is right. -/
def skipHeaderChecksum (whole bytes : List UInt8) : Except StreamFault (List UInt8) := do
  let rest ← skipBytes 2 bytes
  let header := whole.take (whole.length - bytes.length)
  if (checksum header).toNat % 0x10000 = littleEndian (bytes.take 2) then .ok rest
  else .error .badChecksum

/-- The compressed data behind the header. -/
def behindHeader (bytes : List UInt8) : Except StreamFault (List UInt8) :=
  match bytes with
  | 0x1F :: 0x8B :: method :: flags :: _ :: _ :: _ :: _ :: _ :: _ :: rest =>
    if method ≠ 8 || hasFlag flags 0xE0 then .error .badHeader
    else do
      let rest ← if hasFlag flags 0x04 then skipExtra rest else .ok rest
      let rest ← if hasFlag flags 0x08 then skipField rest else .ok rest
      let rest ← if hasFlag flags 0x10 then skipField rest else .ok rest
      if hasFlag flags 0x02 then skipHeaderChecksum bytes rest else .ok rest
  | other => if other.length < 10 then .error .endOfFile else .error .badHeader

/-- What is wrong with a trailer. -/
def trailerFault? (output trailer : List UInt8) : Option StreamFault :=
  if trailer.length < 8 then some .endOfFile
  else if littleEndian (trailer.take 4) = (checksum output).toNat ∧
      littleEndian ((trailer.drop 4).take 4) = output.length % 0x100000000 then none
  else some .badChecksum

/-- The contents of a compressed archive. -/
def contents (bytes : List UInt8) : Supply :=
  match behindHeader bytes with
  | .error fault => .broken fault
  | .ok data =>
    let inflated := Inflate.inflate data
    match inflated.rest with
    | .ok trailer => ⟨inflated.output, trailerFault? inflated.output trailer⟩
    | .error .corrupt => ⟨inflated.output, some .corruptData⟩
    | .error .cut => ⟨inflated.output, some .incompleteData⟩

end RuleVocabulary.Archive.Gzip
