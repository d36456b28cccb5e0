/-!
# Checksums

The cyclic redundancy check of 32 bits with the reversed polynomial `0xEDB88320`: the register
starts with all bits set and is inverted at the end.
-/

set_option autoImplicit false

namespace RuleVocabulary.Archive

/-- One step of the register for each bit of a byte. -/
def checksumStep : (bits : Nat) → UInt32 → UInt32
  | 0, register => register
  | bits + 1, register =>
    checksumStep bits
      (if register &&& 1 = 1 then (register >>> 1) ^^^ 0xEDB88320 else register >>> 1)

/-- The checksum of a sequence of bytes. -/
def checksum (bytes : List UInt8) : UInt32 :=
  ~~~(bytes.foldl (fun register byte => checksumStep 8 (register ^^^ byte.toUInt32)) 0xFFFFFFFF)

/-- The number that bytes stand for, the lowest first. -/
def littleEndian : List UInt8 → Nat
  | [] => 0
  | byte :: bytes => byte.toNat + 256 * littleEndian bytes

end RuleVocabulary.Archive
