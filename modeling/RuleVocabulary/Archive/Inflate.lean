/-!
# Inflated data

Compressed data are a sequence of blocks of bits, the lowest bit of each byte first. A block holds
bytes as they are, or symbols of Huffman codes: literal bytes and copies of earlier output. The
codes of a block are fixed, or described in front of it. A copy may reach back 32 KiB, also to in
front of the output, where zeros stand. Output leaves the window only when a 32 KiB piece of it is
complete or the data end, so corrupt data hide what their piece held before them.
-/

set_option autoImplicit false

namespace RuleVocabulary.Archive.Inflate

/-- Why no more can be inflated. -/
inductive Stop where
  /-- The data are not well-formed. -/
  | corrupt
  /-- The data end before their last block does. -/
  | cut
deriving DecidableEq, Repr

/-! ## Bits -/

/-- Data, and how many of their bits have been read. -/
structure Bits where
  data : Array UInt8
  position : Nat

namespace Bits

/-- How many bits there are, read or not. -/
def total (bits : Bits) : Nat := 8 * bits.data.size

/-- Reads one bit. -/
def bit (bits : Bits) : Except Stop (Nat × Bits) :=
  match bits.data[bits.position / 8]? with
  | some byte => .ok ((byte.toNat >>> (bits.position % 8)) % 2, ⟨bits.data, bits.position + 1⟩)
  | none => .error .cut

/-- Reads a number, its lowest bit first. -/
def number : (count : Nat) → Bits → Except Stop (Nat × Bits)
  | 0, bits => .ok (0, bits)
  | count + 1, bits => do
    let (low, bits) ← bits.bit
    let (high, bits) ← number count bits
    return (low + 2 * high, bits)

/-- Passes the rest of a byte that was read in part. -/
def align (bits : Bits) : Bits :=
  ⟨bits.data, (bits.position + 7) / 8 * 8⟩

end Bits

/-! ## Codes -/

/-- A canonical Huffman code: how many symbols have each length, and the symbols by length. -/
structure Code where
  counts : Array Nat
  symbols : Array Nat

namespace Code

/-- The greatest length of a code word. -/
def maxLength : Nat := 15

/-- The code in which each symbol has the given length; zero stands for none. -/
def ofLengths (lengths : List Nat) : Code :=
  let counted := lengths.foldl (fun counts length => counts.modify length (· + 1))
    (Array.replicate (maxLength + 1) 0)
  let indexed := lengths.zipIdx
  let symbols := (List.range maxLength).flatMap fun shorter =>
    (indexed.filter (·.1 = shorter + 1)).map (·.2)
  ⟨counted, symbols.toArray⟩

/-- Whether the words of a code leave no room and do not overlap. -/
def isComplete (code : Code) : Bool :=
  let used := (List.range maxLength).foldl
    (fun total shorter => total + ((code.counts[shorter + 1]?).getD 0 <<< (14 - shorter))) 0
  used = 0x8000

/-- Whether a code may be used: it is complete, or all it has is one word of one bit at most. -/
def isUsable (code : Code) : Bool :=
  code.isComplete ||
    code.symbols.size ≤ 1 && code.symbols.size = (code.counts[1]?).getD 0

/-- Reads one symbol, bit by bit, and stops when all words are shorter than what has been read.
`value` is the word so far, `first` the first word of its length, and `index` the number of symbols
with shorter words. -/
def readFrom (code : Code) : (lengthsLeft value first index : Nat) → Bits →
    Except Stop (Nat × Bits)
  | 0, _, _, _, _ => .error .corrupt
  | left + 1, value, first, index, bits => do
    let (low, bits) ← bits.bit
    let word := 2 * value + low
    let start := 2 * first
    let count := (code.counts[maxLength - left]?).getD 0
    if word < start + count then
      match code.symbols[index + (word - start)]? with
      | some symbol => return (symbol, bits)
      | none => .error .corrupt
    else if code.symbols.size ≤ index + count then .error .corrupt
    else readFrom code left word (start + count) (index + count) bits

/-- Reads one symbol. -/
def read (code : Code) (bits : Bits) : Except Stop (Nat × Bits) :=
  code.readFrom maxLength 0 0 0 bits

/-- The fixed code for literals and lengths. -/
def fixedLiterals : Code :=
  ofLengths (List.replicate 144 8 ++ List.replicate 112 9 ++ List.replicate 24 7 ++
    List.replicate 8 8)

/-- The fixed code for distances. -/
def fixedDistances : Code :=
  ofLengths (List.replicate 32 5)

end Code

/-! ## Described codes -/

/-- The order in which the lengths of the code for lengths are given. -/
def lengthOrder : List Nat :=
  [16, 17, 18, 0, 8, 7, 9, 6, 10, 5, 11, 4, 12, 3, 13, 2, 14, 1, 15]

/-- Reads so many numbers of three bits. -/
def readTriples : (count : Nat) → Bits → Except Stop (List Nat × Bits)
  | 0, bits => .ok ([], bits)
  | count + 1, bits => do
    let (value, bits) ← bits.number 3
    let (values, bits) ← readTriples count bits
    return (value :: values, bits)

/-- The lengths of the symbols in the code for lengths. -/
def lengthsInOrder (given : List Nat) : List Nat :=
  (List.range 19).map fun symbol =>
    ((lengthOrder.zip given).find? (·.1 = symbol)).elim 0 (·.2)

/-- Reads code lengths up to the wanted number; the lengths read so far come latest first. -/
def readLengths (code : Code) (wanted : Nat) :
    (fuel : Nat) → (lengths : Array Nat) → Bits → Except Stop (Array Nat × Bits)
  | 0, _, _ => .error .corrupt
  | fuel + 1, lengths, bits =>
    if wanted ≤ lengths.size then
      if lengths.size = wanted then .ok (lengths, bits) else .error .corrupt
    else do
      let (symbol, bits) ← code.read bits
      if symbol < 16 then readLengths code wanted fuel (lengths.push symbol) bits
      else if symbol = 16 then
        match lengths.back? with
        | none => .error .corrupt
        | some last => do
          let (more, bits) ← bits.number 2
          readLengths code wanted fuel (lengths ++ Array.replicate (3 + more) last) bits
      else if symbol = 17 then do
        let (more, bits) ← bits.number 3
        readLengths code wanted fuel (lengths ++ Array.replicate (3 + more) 0) bits
      else do
        let (more, bits) ← bits.number 7
        readLengths code wanted fuel (lengths ++ Array.replicate (11 + more) 0) bits

/-- Reads the description of a block's codes for literals and for distances. -/
def readCodes (bits : Bits) : Except Stop ((Code × Code) × Bits) := do
  let (literals, bits) ← bits.number 5
  let (distances, bits) ← bits.number 5
  let (given, bits) ← bits.number 4
  if 29 < literals ∨ 29 < distances then .error .corrupt
  else
    let (triples, bits) ← readTriples (given + 4) bits
    let code := Code.ofLengths (lengthsInOrder triples)
    if !code.isComplete then .error .corrupt
    else
      let wanted := literals + 257 + (distances + 1)
      let (lengths, bits) ← readLengths code wanted (wanted + 1) #[] bits
      let literalCode := Code.ofLengths (lengths.toList.take (literals + 257))
      let distanceCode := Code.ofLengths (lengths.toList.drop (literals + 257))
      if literalCode.isUsable && distanceCode.isUsable then
        return ((literalCode, distanceCode), bits)
      else .error .corrupt

/-! ## Blocks -/

/-- The least length of a copy for each length symbol, and how many bits are added to it. -/
def copyLengths : Array (Nat × Nat) := #[
  (3, 0), (4, 0), (5, 0), (6, 0), (7, 0), (8, 0), (9, 0), (10, 0), (11, 1), (13, 1), (15, 1),
  (17, 1), (19, 2), (23, 2), (27, 2), (31, 2), (35, 3), (43, 3), (51, 3), (59, 3), (67, 4),
  (83, 4), (99, 4), (115, 4), (131, 5), (163, 5), (195, 5), (227, 5), (258, 0)]

/-- The least distance of a copy for each distance symbol, and how many bits are added to it. -/
def copyDistances : Array (Nat × Nat) := #[
  (1, 0), (2, 0), (3, 0), (4, 0), (5, 1), (7, 1), (9, 2), (13, 2), (17, 3), (25, 3), (33, 4),
  (49, 4), (65, 5), (97, 5), (129, 6), (193, 6), (257, 7), (385, 7), (513, 8), (769, 8),
  (1025, 9), (1537, 9), (2049, 10), (3073, 10), (4097, 11), (6145, 11), (8193, 12), (12289, 12),
  (16385, 13), (24577, 13)]

/-- Reads the added bits of a table entry. -/
def readEntry (table : Array (Nat × Nat)) (symbol : Nat) (bits : Bits) :
    Except Stop (Nat × Bits) :=
  match table[symbol]? with
  | none => .error .corrupt
  | some (least, count) => do
    let (more, bits) ← bits.number count
    return (least + more, bits)

/-- Copies bytes from a distance behind the end of the output; zeros stand in front of it. -/
def copyBack (distance : Nat) : (length : Nat) → Array UInt8 → Array UInt8
  | 0, output => output
  | length + 1, output =>
    let byte := if distance ≤ output.size then (output[output.size - distance]?).getD 0 else 0
    copyBack distance length (output.push byte)

/-- Output so far, and how the bits went on. -/
structure Progress where
  output : Array UInt8
  state : Except Stop Bits

/-- Inflates the symbols of a block up to its end. -/
def inflateSymbols (literals distances : Code) :
    (fuel : Nat) → Array UInt8 → Bits → Progress
  | 0, output, _ => ⟨output, .error .cut⟩
  | fuel + 1, output, bits =>
    match literals.read bits with
    | .error stop => ⟨output, .error stop⟩
    | .ok (symbol, bits) =>
      if symbol < 256 then
        inflateSymbols literals distances fuel (output.push (UInt8.ofNat symbol)) bits
      else if symbol = 256 then ⟨output, .ok bits⟩
      else
        let copied : Except Stop ((Nat × Nat) × Bits) := do
          let (length, bits) ← readEntry copyLengths (symbol - 257) bits
          let (distance, bits) ← distances.read bits
          let (distance, bits) ← readEntry copyDistances distance bits
          return ((length, distance), bits)
        match copied with
        | .error stop => ⟨output, .error stop⟩
        | .ok ((length, distance), bits) =>
          inflateSymbols literals distances fuel (copyBack distance length output) bits

/-- Takes whole bytes as they are. -/
def takeBytes : (count : Nat) → Array UInt8 → Bits → Progress
  | 0, output, bits => ⟨output, .ok bits⟩
  | count + 1, output, bits =>
    match bits.data[bits.position / 8]? with
    | some byte => takeBytes count (output.push byte) ⟨bits.data, bits.position + 8⟩
    | none => ⟨output, .error .cut⟩

/-- Inflates a block that is not compressed. Its length is given twice, once inverted. -/
def inflateStored (output : Array UInt8) (bits : Bits) : Progress :=
  let lengths : Except Stop ((Nat × Nat) × Bits) := do
    let (length, bits) ← bits.align.number 16
    let (inverted, bits) ← bits.number 16
    return ((length, inverted), bits)
  match lengths with
  | .error stop => ⟨output, .error stop⟩
  | .ok ((length, inverted), bits) =>
    if length + inverted = 0xFFFF then takeBytes length output bits
    else ⟨output, .error .corrupt⟩

/-- Inflates a block of the given type. -/
def inflateBlock (type : Nat) (output : Array UInt8) (bits : Bits) : Progress :=
  let fuel := bits.total + 1
  match type with
  | 0 => inflateStored output bits
  | 1 => inflateSymbols Code.fixedLiterals Code.fixedDistances fuel output bits
  | 2 =>
    match readCodes bits with
    | .error stop => ⟨output, .error stop⟩
    | .ok ((literals, distances), bits) => inflateSymbols literals distances fuel output bits
  | _ => ⟨output, .error .corrupt⟩

/-- Inflates blocks up to the last. -/
def inflateBlocks : (fuel : Nat) → Array UInt8 → Bits → Progress
  | 0, output, _ => ⟨output, .error .cut⟩
  | fuel + 1, output, bits =>
    let head : Except Stop ((Nat × Nat) × Bits) := do
      let (last, bits) ← bits.bit
      let (type, bits) ← bits.number 2
      return ((last, type), bits)
    match head with
    | .error stop => ⟨output, .error stop⟩
    | .ok ((last, type), bits) =>
      let block := inflateBlock type output bits
      match block.state with
      | .error stop => ⟨block.output, .error stop⟩
      | .ok bits =>
        if last = 1 then ⟨block.output, .ok bits⟩ else inflateBlocks fuel block.output bits

/-- The size of the window. -/
def windowSize : Nat := 32768

/-- Inflated data: the output that can be read, and what follows the compressed data, or why they
could not be read to their end. -/
structure Inflated where
  output : List UInt8
  rest : Except Stop (List UInt8)

/-- Inflates data. -/
def inflate (data : List UInt8) : Inflated :=
  let bits : Bits := ⟨data.toArray, 0⟩
  let progress := inflateBlocks (bits.total + 1) #[] bits
  match progress.state with
  | .ok bits => ⟨progress.output.toList, .ok (data.drop (bits.align.position / 8))⟩
  | .error .cut => ⟨progress.output.toList, .error .cut⟩
  | .error .corrupt =>
    ⟨progress.output.toList.take (progress.output.size / windowSize * windowSize), .error .corrupt⟩

end RuleVocabulary.Archive.Inflate
