/-!
# Supplies of bytes

What an archive reader reads from: bytes, and what comes after them. A supply either ends, or it
breaks with a fault. The fault is met only by a reader that asks for more bytes than there are, so
a reader that stops early never learns of it.
-/

set_option autoImplicit false

namespace RuleVocabulary.Archive

/-- Why compressed data cannot be read on. -/
inductive StreamFault where
  /-- The header or the trailer is cut. -/
  | endOfFile
  | badHeader
  | headerFieldTooLong
  /-- The contents do not have the recorded checksum or length. -/
  | badChecksum
  | corruptData
  /-- The compressed data are cut. -/
  | incompleteData
deriving DecidableEq, Repr

namespace StreamFault

/-- The text for a fault. -/
def message : StreamFault → String
  | endOfFile => "unexpected end of file"
  | badHeader => "invalid gzip header"
  | headerFieldTooLong => "gzip header field too long"
  | badChecksum => "corrupt gzip stream does not have a matching checksum"
  | corruptData => "corrupt deflate stream"
  | incompleteData => "incomplete deflate stream"

end StreamFault

/-- Bytes, and the fault that follows them, if they do not simply end. -/
structure Supply where
  bytes : List UInt8
  fault : Option StreamFault
deriving DecidableEq, Repr

namespace Supply

/-- Bytes that simply end. -/
def ofBytes (bytes : List UInt8) : Supply := ⟨bytes, none⟩

/-- A supply that breaks at once. -/
def broken (fault : StreamFault) : Supply := ⟨[], some fault⟩

end Supply

end RuleVocabulary.Archive
