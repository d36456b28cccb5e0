import RuleVocabulary.Archive.TarHeader

/-!
# The members of an archive

Members follow each other: a header, data, and padding up to the next block. A block of zeros or
the end of the bytes ends the archive. A long name, a long link name or extensions are stored as
members in front of the one they describe; directories are left out. Data that are cut are noticed
when the next header is looked for, so no member with cut data is ever returned: the whole archive
is refused (`readMembers`).
-/

set_option autoImplicit false

namespace RuleVocabulary.Archive

open RuleVocabulary.Text

/-- A file of an archive. -/
structure Entry where
  path : String
  bytes : List UInt8
deriving DecidableEq, Repr

/-- What is known about the next member from the members in front of it. -/
structure Described where
  longName : Option (List UInt8)
  longLink : Option (List UInt8)
  extensions : Option (List UInt8)
deriving DecidableEq, Repr

namespace Described

/-- Nothing is known. -/
def nothing : Described := ⟨none, none, none⟩

end Described

/-- The bytes of a path: the long name less one closing zero, or the extended path, or the path in
the header. -/
def pathBytes (described : Described) (header : Header) : List UInt8 :=
  match described.longName with
  | some name => if name.getLast? = some 0 then name.dropLast else name
  | none => (described.extensions.bind extendedPath?).getD header.path

/-- The path of a file. Backslashes separate its parts like slashes. -/
def entryPath (described : Described) (header : Header) : String :=
  String.ofList ((Utf8.decodeLossy (pathBytes described header)).toList.map fun c =>
    if c = '\\' then '/' else c)

/-- What a member is for. -/
inductive Role where
  | longName
  | longLink
  | extensions
  | sparseFile
  | directory
  | file
deriving DecidableEq, Repr

/-- The role that a header gives to its member. -/
def Header.role (header : Header) : Role :=
  if header.mayDescribe && header.type = 0x4C then .longName
  else if header.mayDescribe && header.type = 0x4B then .longLink
  else if header.mayDescribe && header.type = 0x78 then .extensions
  else if header.type = 0x53 then .sparseFile
  else if header.isDirectory then .directory
  else .file

/-- Whether the size in extensions holds for a member. It does not for a long name, a long link
name, or extensions of the next member or of all members, whatever the dialect. -/
def Header.takesExtendedSize (header : Header) : Bool :=
  header.type ≠ 0x4C && header.type ≠ 0x4B && header.type ≠ 0x78 && header.type ≠ 0x67

/-- The size of a member's data: the one in the extensions that describe it, if it takes it from
there, or the recorded one. -/
def memberSize (described : Described) (header : Header) : Except TarFault Nat := do
  let recorded ← header.size
  if header.takesExtendedSize then
    return (described.extensions.bind extendedSize?).getD recorded
  else return recorded

/-- The size of data with their padding. -/
def paddedSize (size : Nat) : Nat :=
  (size + (blockSize - 1)) / blockSize * blockSize

/-- What a reader meets that wants more bytes than there are. -/
def shortage (fault : Option StreamFault) (atEnd : TarFault) : TarFault :=
  match fault with
  | some fault => .stream fault
  | none => atEnd

/-! ## Sparse files -/

/-- A piece of a sparse file: where it lies in the file, and how long it is. -/
structure SparsePiece where
  offset : Nat
  length : Nat
deriving DecidableEq, Repr

/-- The descriptions of pieces in a field, 24 bytes each. -/
def sparseFields (count start : Nat) (block : List UInt8) : List (List UInt8) :=
  (List.range count).map fun index => field (start + 24 * index) 24 block

/-- Reads the description of a piece. One that starts with a zero is not used. -/
def sparsePiece? (described : List UInt8) : Except TarFault (Option SparsePiece) :=
  let offset := field 0 12 described
  let length := field 12 12 described
  if offset.head?.getD 0 = 0 || length.head?.getD 0 = 0 then .ok none
  else do
    let offset ← quantity "offset from sparse header" offset
    let length ← quantity "length from sparse header" length
    return some ⟨offset, length⟩

/-- How far a sparse file has been described: its length so far, how many of the data are spoken
for, and its pieces, the latest first. -/
structure SparseState where
  reached : Nat
  taken : Nat
  pieces : List SparsePiece

/-- Adds one piece to a sparse file whose data have the given size. -/
def addPiece (size : Nat) (state : SparseState) (described : List UInt8) :
    Except TarFault SparseState := do
  match ← sparsePiece? described with
  | none => return state
  | some piece =>
    if piece.length ≠ 0 ∧ state.taken % blockSize ≠ 0 then .error .sparseUnaligned
    else if piece.offset < state.reached then .error .sparseOutOfOrder
    else if 0x10000000000000000 ≤ piece.offset + piece.length then .error .sparseOverflow
    else if size < state.taken + piece.length then .error .sparseTooMuchData
    else return ⟨piece.offset + piece.length, state.taken + piece.length, piece :: state.pieces⟩

/-- Adds the pieces in the blocks behind a header; each tells whether another follows. A piece is
checked as soon as its block has been read. -/
def addBlocks (fault : Option StreamFault) (size : Nat) :
    (fuel : Nat) → (more : Bool) → SparseState → List UInt8 →
      Except TarFault (SparseState × List UInt8)
  | _, false, state, bytes => .ok (state, bytes)
  | 0, true, _, _ => .error .sparseExtensionMissing
  | fuel + 1, true, state, bytes =>
    let block := bytes.take blockSize
    if block.isEmpty then .error (shortage fault .sparseExtensionMissing)
    else if block.length < blockSize then .error (shortage fault .partialBlock)
    else do
      let state ← (sparseFields 21 0 block).foldlM (addPiece size) state
      addBlocks fault size fuel (block[504]? = some 1) state (bytes.drop blockSize)

/-- The contents of a sparse file: its pieces lie in its data one behind the other, and what is
between them in the file is zero. `reached` bytes of the file are there already. -/
def fillGaps : (reached : Nat) → List SparsePiece → (data : List UInt8) → List UInt8
  | _, [], _ => []
  | reached, piece :: pieces, data =>
    List.replicate (piece.offset - reached) 0 ++ data.take piece.length ++
      fillGaps (piece.offset + piece.length) pieces (data.drop piece.length)

/-- The contents of a sparse file, and the bytes behind its further descriptions. -/
def sparseContents (fault : Option StreamFault) (header : Header) (size : Nat)
    (bytes : List UInt8) : Except TarFault (List UInt8 × List UInt8) := do
  if !header.isGnu then .error .sparseOutsideGnu
  else
    let state ← (sparseFields 4 386 header.block).foldlM (addPiece size) ⟨0, 0, []⟩
    let (state, rest) ←
      addBlocks fault size (bytes.length / blockSize + 1) (header.block[482]? = some 1) state bytes
    let realSize ← quantity
      ("real_size for " ++ Utf8.decodeLossy (untilZero (field 297 32 header.block)) ++ ":" ++
        Utf8.decodeLossy (untilZero (field 265 32 header.block)))
      (field 483 12 header.block)
    if state.reached ≠ realSize then .error .sparseRealSizeMismatch
    else if state.taken < size then .error .sparseSizeMismatch
    else return (fillGaps 0 state.pieces.reverse rest, rest)

/-! ## Members -/

/-- Whether bytes are all zero. -/
def isZero (bytes : List UInt8) : Bool :=
  bytes.all (· = 0)

/-- Reads what a member with the given header and size contributes: an entry, or a description of
the next member, and the bytes from its data on. -/
def readData (fault : Option StreamFault) (described : Described) (header : Header) (size : Nat)
    (bytes : List UInt8) : Except TarFault (Option Entry × Described × List UInt8) :=
  let data := bytes.take size
  match header.role with
  | .longName =>
    if described.longName.isSome then .error .twoLongNames
    else .ok (none, { described with longName := some data }, bytes)
  | .longLink =>
    if described.longLink.isSome then .error .twoLongNames
    else .ok (none, { described with longLink := some data }, bytes)
  | .extensions =>
    if described.extensions.isSome then .error .twoExtensions
    else .ok (none, { described with extensions := some data }, bytes)
  | .sparseFile => do
    let (contents, rest) ← sparseContents fault header size bytes
    return (some ⟨entryPath described header, contents⟩, .nothing, rest)
  | .directory => .ok (none, .nothing, bytes)
  | .file => .ok (some ⟨entryPath described header, data⟩, .nothing, bytes)

/-- The entries of an archive from the given bytes on; `offset` bytes came before them. Every
member takes a block at least, so as much fuel as there are bytes suffices. -/
def readMembers (fault : Option StreamFault) :
    (fuel : Nat) → Described → (offset : Nat) → List UInt8 → Except TarFault (List Entry)
  | 0, _, _, _ => .error (shortage fault .partialBlock)
  | fuel + 1, described, offset, bytes =>
    let block := bytes.take blockSize
    let ended : Except TarFault (List Entry) :=
      if described = .nothing then .ok [] else .error .describedMemberMissing
    if block.isEmpty then
      match fault with
      | some fault => .error (.stream fault)
      | none => ended
    else if block.length < blockSize then .error (shortage fault .partialBlock)
    else if isZero block then ended
    else do
      let header : Header := ⟨block⟩
      header.check
      let size ← memberSize described header
      let padded := paddedSize size
      if 0x10000000000000000 ≤ size + (blockSize - 1) ∨
          0x10000000000000000 ≤ offset + blockSize + padded then
        .error .sizeOverflow
      else
        let behind := bytes.drop blockSize
        let (entry, next, data) ← readData fault described header size behind
        if data.length < padded then .error (shortage fault .endInSkip)
        else
          let rest := data.drop padded
          let more ← readMembers fault fuel next (offset + (bytes.length - rest.length)) rest
          return entry.toList ++ more

/-- The entries of an archive. -/
def entries (supply : Supply) : Except TarFault (List Entry) :=
  readMembers supply.fault (supply.bytes.length + 1) .nothing 0 supply.bytes

end RuleVocabulary.Archive
